import Mathlib.Logic.Function.Basic
import PlatformArchitecture.Foundations.Program
import PlatformArchitecture.Foundations.Run

/-!
# Many programs over one shared state

Each process runs its own program against a server that all of them share.
The environment picks which process issues its next statement and how the
server treats it, may make a statement wait, and may cut the connection of a
process or crash it at any moment.  Nothing is assumed about the order.

An invariant of such a world is proved one statement at a time: every process
is at a known point of its program, its own statements lead to the next point,
and the statements of others leave it where it is.
-/

namespace PlatformArchitecture.Foundations

/-- What a statement of a process does to the shared state under a choice of
the environment, where `none` makes the statement wait, and what the loss of
its connection does. -/
structure Server (Pid Choice State Op : Type) (Reply : Op → Type) (Error : Type) where
  outcome : Pid → Choice → (op : Op) → State →
    Option (Except Error (Reply op) × State)
  disconnect : Pid → State → State

/-- Statements of a database as a server: none waits, and a lost connection
leaves what was written. -/
def Database.server {Pid State Op Error : Type} {Reply : Op → Type}
    (database : Database State Op Reply Error) :
    Server Pid Delivery State Op Reply Error where
  outcome _ delivery op state := some (database.attempt delivery op state)
  disconnect _ state := state

/-- The shared state and what is left of the program of each process; a
crashed process has none. -/
structure World (Pid State Op : Type) (Reply : Op → Type) (Error Result : Type) where
  shared : State
  programs : Pid → Option (Program Op Reply Error Result)

/-- One scheduling decision. -/
inductive Event (Pid Choice : Type) where
  | statement (pid : Pid) (choice : Choice)
  | disconnect (pid : Pid)
  | crash (pid : Pid)

/-- A value after one of them has been set. -/
theorem update_cases {Key Value : Type} [DecidableEq Key] {values : Key → Value}
    {key other : Key} {value found : Value}
    (isFound : Function.update values key value other = found) :
    (other = key ∧ value = found) ∨ (other ≠ key ∧ values other = found) := by
  by_cases same : other = key
  · subst other
    rw [Function.update_self] at isFound
    exact Or.inl ⟨rfl, isFound⟩
  · rw [Function.update_of_ne same] at isFound
    exact Or.inr ⟨same, isFound⟩

/-- What is still there after a crash was there before it. -/
theorem of_update_none {Key Value : Type} [DecidableEq Key] {values : Key → Option Value}
    {key other : Key} {found : Value}
    (isFound : Function.update values key none other = some found) :
    values other = some found := by
  rcases update_cases isFound with ⟨-, crashed⟩ | ⟨-, before⟩
  · cases crashed
  · exact before

namespace World

variable {Pid Choice State Op Error Result : Type} {Reply : Op → Type}

/-- Every process at the beginning of its program. -/
def start (shared : State) (programs : Pid → Program Op Reply Error Result) :
    World Pid State Op Reply Error Result :=
  { shared, programs := fun pid => some (programs pid) }

/-- The result a process has returned. -/
def returned (world : World Pid State Op Reply Error Result) (pid : Pid) :
    Option Result :=
  match world.programs pid with
  | some (.done result) => some result
  | _ => none

theorem returned_eq_some {world : World Pid State Op Reply Error Result}
    {pid : Pid} {result : Result} :
    world.returned pid = some result ↔ world.programs pid = some (.done result) := by
  unfold returned
  split
  · next found => simp [found]
  · next other =>
      simp only [reduceCtorEq, false_iff]
      exact fun done => other _ done

variable [DecidableEq Pid]

/-- A process takes its next statement, loses its connection or crashes.  A
statement that has to wait, and a process with nothing left to do, change
nothing. -/
def step (server : Server Pid Choice State Op Reply Error)
    (world : World Pid State Op Reply Error Result) :
    Event Pid Choice → World Pid State Op Reply Error Result
  | .statement pid choice =>
      match world.programs pid with
      | some (.perform op next) =>
          match server.outcome pid choice op world.shared with
          | some (reply, shared) =>
              { shared
                programs := Function.update world.programs pid (some (next reply)) }
          | none => world
      | _ => world
  | .disconnect pid =>
      { world with shared := server.disconnect pid world.shared }
  | .crash pid =>
      { shared := server.disconnect pid world.shared
        programs := Function.update world.programs pid none }

theorem step_statement {server : Server Pid Choice State Op Reply Error}
    {world : World Pid State Op Reply Error Result} {pid : Pid} {choice : Choice} {op : Op}
    {next : Except Error (Reply op) → Program Op Reply Error Result}
    {reply : Except Error (Reply op)} {shared : State}
    (current : world.programs pid = some (.perform op next))
    (answer : server.outcome pid choice op world.shared = some (reply, shared)) :
    world.step server (.statement pid choice) =
      { shared, programs := Function.update world.programs pid (some (next reply)) } := by
  simp [step, current, answer]

/-- A statement event does nothing, or it is the next statement of its process. -/
theorem statement_cases (server : Server Pid Choice State Op Reply Error)
    (world : World Pid State Op Reply Error Result) (pid : Pid) (choice : Choice) :
    world.step server (.statement pid choice) = world ∨
      ∃ op next reply shared,
        world.programs pid = some (.perform op next) ∧
        server.outcome pid choice op world.shared = some (reply, shared) ∧
        world.step server (.statement pid choice) =
          { shared
            programs := Function.update world.programs pid (some (next reply)) } := by
  cases current : world.programs pid with
  | none =>
      left
      simp [step, current]
  | some program =>
      cases program with
      | done result =>
          left
          simp [step, current]
      | fail error =>
          left
          simp [step, current]
      | perform op next =>
          cases answer : server.outcome pid choice op world.shared with
          | none =>
              left
              simp [step, current, answer]
          | some outcome =>
              exact Or.inr
                ⟨op, next, outcome.1, outcome.2, rfl, answer, step_statement current answer⟩

/-- What holds of a world, and of the world after the next statement of a process,
holds after a statement event. -/
theorem statement_preserves {server : Server Pid Choice State Op Reply Error}
    {holds : World Pid State Op Reply Error Result → Prop}
    {world : World Pid State Op Reply Error Result} {pid : Pid} {choice : Choice}
    (now : holds world)
    (moves : ∀ op next reply shared,
      world.programs pid = some (.perform op next) →
      server.outcome pid choice op world.shared = some (reply, shared) →
        holds
          { shared
            programs := Function.update world.programs pid (some (next reply)) }) :
    holds (world.step server (.statement pid choice)) := by
  rcases statement_cases server world pid choice with
    unchanged | ⟨op, next, reply, shared, current, answer, moved⟩
  · rw [unchanged]
    exact now
  · rw [moved]
    exact moves op next reply shared current answer

/-- What one event can do: nothing, one statement of one process, or the loss
of a connection with or without its process. -/
theorem step_cases (server : Server Pid Choice State Op Reply Error)
    (world : World Pid State Op Reply Error Result) (event : Event Pid Choice) :
    world.step server event = world ∨
      (∃ pid choice op next reply shared,
        event = .statement pid choice ∧
        world.programs pid = some (.perform op next) ∧
        server.outcome pid choice op world.shared = some (reply, shared) ∧
        world.step server event =
          { shared
            programs := Function.update world.programs pid (some (next reply)) }) ∨
      ∃ pid programs,
        world.step server event =
          { shared := server.disconnect pid world.shared, programs } ∧
        ∀ other program,
          programs other = some program → world.programs other = some program := by
  cases event with
  | disconnect pid =>
      exact Or.inr (Or.inr ⟨pid, world.programs, rfl, fun _ _ running => running⟩)
  | crash pid =>
      exact Or.inr (Or.inr ⟨pid, _, rfl, fun _ _ running => of_update_none running⟩)
  | statement pid choice =>
      rcases statement_cases server world pid choice with
        unchanged | ⟨op, next, reply, shared, current, answer, moved⟩
      · exact Or.inl unchanged
      · exact Or.inr (Or.inl
          ⟨pid, choice, op, next, reply, shared, rfl, current, answer, moved⟩)

/-- The shared state satisfies its invariant and every process that has not
crashed is at a point of its program that the shared state supports. -/
structure Consistent (invariant : State → Prop)
    (point : Pid → State → Program Op Reply Error Result → Prop)
    (world : World Pid State Op Reply Error Result) : Prop where
  shared : invariant world.shared
  points : ∀ pid program,
    world.programs pid = some program → point pid world.shared program

section Rule

variable {server : Server Pid Choice State Op Reply Error}
  {invariant : State → Prop}
  {point : Pid → State → Program Op Reply Error Result → Prop}
  {condition : World Pid State Op Reply Error Result → Event Pid Choice → Prop}

/-- One event keeps a world consistent when every statement leads its process
to the next point and leaves the points of the others alone, and no point
relies on a connection. -/
theorem Consistent.step
    (own : ∀ (world : World Pid State Op Reply Error Result) pid choice op next
        reply shared,
      world.Consistent invariant point →
      world.programs pid = some (.perform op next) →
      condition world (.statement pid choice) →
      server.outcome pid choice op world.shared = some (reply, shared) →
        invariant shared ∧ point pid shared (next reply) ∧
          ∀ other program, other ≠ pid → point other world.shared program →
            point other shared program)
    (lost : ∀ pid state, invariant state →
      invariant (server.disconnect pid state) ∧
        ∀ other program, point other state program →
          point other (server.disconnect pid state) program)
    {world : World Pid State Op Reply Error Result} {event : Event Pid Choice}
    (consistent : world.Consistent invariant point)
    (meets : condition world event) :
    (world.step server event).Consistent invariant point := by
  rcases step_cases server world event with
    unchanged | ⟨pid, choice, op, next, reply, shared, rfl, current, answer, moved⟩ |
      ⟨pid, programs, moved, remaining⟩
  · rw [unchanged]
    exact consistent
  · obtain ⟨holds, arrived, others⟩ :=
      own world pid choice op next reply shared consistent current meets answer
    rw [moved]
    refine ⟨holds, ?_⟩
    intro other program running
    rcases update_cases running with ⟨rfl, isNext⟩ | ⟨different, before⟩
    · cases isNext
      exact arrived
    · exact others other program different (consistent.points other program before)
  · obtain ⟨holds, kept⟩ := lost pid world.shared consistent.shared
    rw [moved]
    refine ⟨holds, ?_⟩
    intro other program running
    exact kept other program
      (consistent.points other program (remaining other program running))

end Rule

end World

end PlatformArchitecture.Foundations
