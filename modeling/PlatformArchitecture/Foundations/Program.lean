import Mathlib.Data.List.Basic

/-!
# Programs of atomic statements

A service reaches its database one statement at a time and goes on with the
reply.  A `Program` is the tree of statements it may issue; a `Database` says
what each statement does.  The environment decides how each statement is
delivered: it is answered, it never reaches the database, or it takes effect
and the answer is lost.  An error ends the program, but what was written
before it stays written.

`Program.Ensures` is the weakest precondition of a program over all
deliveries; its rules follow the constructors.
-/

namespace PlatformArchitecture.Foundations

/-- A program that issues statements from `Op`, gets a `Reply` or an error for
each, and ends with a result or an error. -/
inductive Program (Op : Type) (Reply : Op → Type) (Error : Type) (Result : Type) where
  | done (result : Result)
  | fail (error : Error)
  | perform (op : Op)
      (next : Except Error (Reply op) → Program Op Reply Error Result)

/-- What each statement does to the database: it is rejected without effect,
or it replies and changes the state. -/
structure Database (State Op : Type) (Reply : Op → Type) (Error : Type) where
  execute : (op : Op) → State → Except Error (Reply op × State)
  disconnected : Error

/-- How a statement and its answer travel. -/
inductive Delivery where
  | answered
  | refused
  | unacknowledged
  deriving DecidableEq

namespace Program

variable {State Op Error Result Other : Type} {Reply : Op → Type}

/-- Sequencing: an error skips the rest. -/
def andThen :
    Program Op Reply Error Result →
      (Result → Program Op Reply Error Other) → Program Op Reply Error Other
  | done result, rest => rest result
  | fail error, _ => fail error
  | perform op next, rest => perform op fun reply => (next reply).andThen rest

/-- `try { program } catch (error) { handler(error) }`. -/
def orElse :
    Program Op Reply Error Result →
      (Error → Program Op Reply Error Result) → Program Op Reply Error Result
  | done result, _ => done result
  | fail error, handler => handler error
  | perform op next, handler => perform op fun reply => (next reply).orElse handler

/-- `try { program } finally { cleanup }`: a cleanup that fails replaces the
outcome. -/
def finallyDo :
    Program Op Reply Error Result → Program Op Reply Error Unit →
      Program Op Reply Error Result
  | done result, cleanup => cleanup.andThen fun _ => done result
  | fail error, cleanup => cleanup.andThen fun _ => fail error
  | perform op next, cleanup => perform op fun reply => (next reply).finallyDo cleanup

instance : Monad (Program Op Reply Error) where
  pure := done
  bind := andThen

instance : MonadExceptOf Error (Program Op Reply Error) where
  throw := fail
  tryCatch := orElse

@[simp]
theorem pure_eq (result : Result) :
    (pure result : Program Op Reply Error Result) = done result :=
  rfl

@[simp]
theorem throw_eq (error : Error) :
    (throw error : Program Op Reply Error Result) = fail error :=
  rfl

@[simp]
theorem done_bind (result : Result) (rest : Result → Program Op Reply Error Other) :
    (done result >>= rest) = rest result :=
  rfl

@[simp]
theorem fail_bind (error : Error) (rest : Result → Program Op Reply Error Other) :
    ((fail error : Program Op Reply Error Result) >>= rest) = fail error :=
  rfl

@[simp]
theorem done_orElse (result : Result)
    (handler : Error → Program Op Reply Error Result) :
    (done result : Program Op Reply Error Result).orElse handler = done result :=
  rfl

@[simp]
theorem fail_orElse (error : Error)
    (handler : Error → Program Op Reply Error Result) :
    (fail error : Program Op Reply Error Result).orElse handler = handler error :=
  rfl

theorem done_finallyDo (result : Result) (cleanup : Program Op Reply Error Unit) :
    (done result : Program Op Reply Error Result).finallyDo cleanup =
      cleanup >>= fun _ => done result :=
  rfl

theorem fail_finallyDo (error : Error) (cleanup : Program Op Reply Error Unit) :
    (fail error : Program Op Reply Error Result).finallyDo cleanup =
      cleanup >>= fun _ => fail error :=
  rfl

/-- Issue one statement and go on with its reply, or with its error. -/
def branch (op : Op) (next : Reply op → Program Op Reply Error Result)
    (handler : Error → Program Op Reply Error Result) :
    Program Op Reply Error Result :=
  perform op fun
    | .ok reply => next reply
    | .error error => handler error

/-- Issue one statement; an error ends the program. -/
def call (op : Op) : Program Op Reply Error (Reply op) :=
  branch op done fail

theorem branch_bind (op : Op) (next : Reply op → Program Op Reply Error Result)
    (handler : Error → Program Op Reply Error Result)
    (rest : Result → Program Op Reply Error Other) :
    (branch op next handler >>= rest) =
      branch op (fun reply => next reply >>= rest)
        (fun error => handler error >>= rest) := by
  change perform op _ = perform op _
  congr 1
  funext reply
  cases reply with
  | ok value => rfl
  | error error => rfl

theorem branch_orElse (op : Op) (next : Reply op → Program Op Reply Error Result)
    (handler recover : Error → Program Op Reply Error Result) :
    (branch op next handler).orElse recover =
      branch op (fun reply => (next reply).orElse recover)
        (fun error => (handler error).orElse recover) := by
  change perform op _ = perform op _
  congr 1
  funext reply
  cases reply with
  | ok value => rfl
  | error error => rfl

theorem ite_orElse (condition : Prop) [Decidable condition]
    (first second : Program Op Reply Error Result)
    (handler : Error → Program Op Reply Error Result) :
    (if condition then first else second).orElse handler =
      if condition then first.orElse handler else second.orElse handler := by
  split
  · rfl
  · rfl

theorem branch_finallyDo (op : Op) (next : Reply op → Program Op Reply Error Result)
    (handler : Error → Program Op Reply Error Result) (cleanup : Program Op Reply Error Unit) :
    (branch op next handler).finallyDo cleanup =
      branch op (fun reply => (next reply).finallyDo cleanup)
        (fun error => (handler error).finallyDo cleanup) := by
  change perform op _ = perform op _
  congr 1
  funext reply
  cases reply with
  | ok value => rfl
  | error error => rfl

theorem ite_finallyDo (condition : Prop) [Decidable condition]
    (first second : Program Op Reply Error Result) (cleanup : Program Op Reply Error Unit) :
    (if condition then first else second).finallyDo cleanup =
      if condition then first.finallyDo cleanup else second.finallyDo cleanup := by
  split
  · rfl
  · rfl

@[simp]
theorem call_bind (op : Op) (rest : Reply op → Program Op Reply Error Result) :
    (call op >>= rest) = branch op rest fail :=
  branch_bind op done fail rest

/-- A program whose statements are those of a part of a larger set. -/
def embed {Part : Type} (statement : Part → Op) :
    Program Part (fun op => Reply (statement op)) Error Result →
      Program Op Reply Error Result
  | done result => done result
  | fail error => fail error
  | perform op next => perform (statement op) fun reply => (next reply).embed statement

/-- Go on with the outcome of a program, whatever it is. -/
def outcomeThen :
    Program Op Reply Error Result →
      (Except Error Result → Program Op Reply Error Other) → Program Op Reply Error Other
  | done result, rest => rest (.ok result)
  | fail error, rest => rest (.error error)
  | perform op next, rest => perform op fun reply => (next reply).outcomeThen rest

theorem call_outcomeThen (op : Op)
    (rest : Except Error (Reply op) → Program Op Reply Error Other) :
    (call op).outcomeThen rest = perform op rest := by
  change perform op _ = perform op _
  congr 1
  funext reply
  cases reply with
  | ok value => rfl
  | error error => rfl

/-- A program whose statements are carried out by programs of finer ones. -/
def expand {Fine : Type} {FineReply : Fine → Type}
    (carryOut : (op : Op) → Program Fine FineReply Error (Reply op)) :
    Program Op Reply Error Result → Program Fine FineReply Error Result
  | done result => done result
  | fail error => fail error
  | perform op next => (carryOut op).outcomeThen fun reply => (next reply).expand carryOut

/-- A program that has a statement left. -/
def running : Program Op Reply Error Result → Bool
  | done _ | fail _ => false
  | perform _ _ => true

theorem running_bind_done (program : Program Op Reply Error Result) (make : Result → Other) :
    (program >>= fun result => done (make result)).running = program.running := by
  cases program with
  | done | fail | perform => rfl

/-- A check that only throws: the rest runs when it passes. -/
def check (verdict : Except Error Result) : Program Op Reply Error Result :=
  match verdict with
  | .ok result => done result
  | .error error => fail error

@[simp]
theorem check_ok (result : Result) :
    (check (.ok result) : Program Op Reply Error Result) = done result :=
  rfl

@[simp]
theorem check_error (error : Error) :
    (check (.error error) : Program Op Reply Error Result) = fail error :=
  rfl

end Program

section Execution

variable {State Op Error Result Other : Type} {Reply : Op → Type}

/-- One statement under one delivery: the reply the program sees and the state
it leaves. -/
def Database.attempt (database : Database State Op Reply Error)
    (delivery : Delivery) (op : Op) (state : State) :
    Except Error (Reply op) × State :=
  match delivery, database.execute op state with
  | .refused, _ => (.error database.disconnected, state)
  | _, .error error => (.error error, state)
  | .answered, .ok (reply, after) => (.ok reply, after)
  | .unacknowledged, .ok (_, after) => (.error database.disconnected, after)

/-- What one statement can leave behind: the state it found, or the state the
database computed, and a reply only in the second case. -/
theorem Database.attempt_cases (database : Database State Op Reply Error)
    (delivery : Delivery) (op : Op) (state : State) :
    (∃ error, database.attempt delivery op state = (.error error, state)) ∨
      ∃ reply after, database.execute op state = .ok (reply, after) ∧
        (database.attempt delivery op state = (.ok reply, after) ∨
          database.attempt delivery op state =
            (.error database.disconnected, after)) := by
  unfold Database.attempt
  cases executed : database.execute op state with
  | error error =>
      left
      cases delivery with
      | answered => exact ⟨error, rfl⟩
      | refused => exact ⟨database.disconnected, rfl⟩
      | unacknowledged => exact ⟨error, rfl⟩
  | ok outcome =>
      cases delivery with
      | answered => exact Or.inr ⟨_, _, rfl, Or.inl rfl⟩
      | refused => exact Or.inl ⟨database.disconnected, rfl⟩
      | unacknowledged => exact Or.inr ⟨_, _, rfl, Or.inr rfl⟩

/-- A statement that is not refused leaves what it computes. -/
theorem Database.attempt_executed {database : Database State Op Reply Error}
    {delivery : Delivery} {op : Op} {state after : State} {reply : Reply op}
    (executed : database.execute op state = .ok (reply, after))
    (delivered : delivery ≠ .refused) :
    (database.attempt delivery op state).2 = after := by
  unfold Database.attempt
  rw [executed]
  cases delivery with
  | refused => exact absurd rfl delivered
  | answered | unacknowledged => rfl

namespace Program

/-- Run a program alone.  Statements beyond the listed deliveries are
answered. -/
def run (database : Database State Op Reply Error) :
    Program Op Reply Error Result → List Delivery → State →
      Except Error Result × State
  | done result, _, state => (.ok result, state)
  | fail error, _, state => (.error error, state)
  | perform op next, deliveries, state =>
      let outcome := database.attempt (deliveries.headD .answered) op state
      (next outcome.1).run database deliveries.tail outcome.2

/-- Whatever is delivered, the program ends as `post` says. -/
def Ensures (database : Database State Op Reply Error) :
    Program Op Reply Error Result → (Except Error Result → State → Prop) →
      State → Prop
  | done result, post, state => post (.ok result) state
  | fail error, post, state => post (.error error) state
  | perform op next, post, state =>
      ∀ delivery,
        (next (database.attempt delivery op state).1).Ensures database post
          (database.attempt delivery op state).2

variable {database : Database State Op Reply Error}

@[simp]
theorem ensures_done {result : Result}
    {post : Except Error Result → State → Prop} {state : State} :
    (done result : Program Op Reply Error Result).Ensures database post state ↔
      post (.ok result) state :=
  Iff.rfl

/-- The rule for running: an ensured postcondition holds of every run. -/
theorem Ensures.run {post : Except Error Result → State → Prop} :
    ∀ {program : Program Op Reply Error Result} {state : State},
      program.Ensures database post state →
        ∀ deliveries,
          post (program.run database deliveries state).1
            (program.run database deliveries state).2 := by
  intro program
  induction program with
  | done result =>
      intro state ensured _deliveries
      exact ensured
  | fail error =>
      intro state ensured _deliveries
      exact ensured
  | perform op next inductionHypothesis =>
      intro state ensured deliveries
      have answeredEnsured := ensured (deliveries.headD .answered)
      exact inductionHypothesis _ answeredEnsured deliveries.tail

/-- The rule of consequence. -/
theorem Ensures.mono {post weaker : Except Error Result → State → Prop}
    (weaken : ∀ result state, post result state → weaker result state) :
    ∀ {program : Program Op Reply Error Result} {state : State},
      program.Ensures database post state →
        program.Ensures database weaker state := by
  intro program
  induction program with
  | done result =>
      intro state ensured
      exact weaken (.ok result) state ensured
  | fail error =>
      intro state ensured
      exact weaken (.error error) state ensured
  | perform op next inductionHypothesis =>
      intro state ensured delivery
      exact inductionHypothesis _ (ensured delivery)

/-- The rule of composition. -/
theorem ensures_bind {post : Except Error Other → State → Prop}
    {rest : Result → Program Op Reply Error Other} :
    ∀ {program : Program Op Reply Error Result} {state : State},
      program.Ensures database
          (fun
            | .ok result, after => (rest result).Ensures database post after
            | .error error, after => post (.error error) after) state →
        (program >>= rest).Ensures database post state := by
  intro program
  induction program with
  | done result =>
      intro state ensured
      exact ensured
  | fail error =>
      intro state ensured
      exact ensured
  | perform op next inductionHypothesis =>
      intro state ensured delivery
      exact inductionHypothesis _ (ensured delivery)

/-- The rule for one statement: nothing happened and the program fails, or the
database executed it and the program may or may not learn of it. -/
theorem ensures_call {op : Op} {post : Except Error (Reply op) → State → Prop}
    {state : State}
    (untouched : ∀ error, post (.error error) state)
    (executed : ∀ reply after,
      database.execute op state = .ok (reply, after) →
        post (.ok reply) after ∧ post (.error database.disconnected) after) :
    (call op).Ensures database post state := by
  intro delivery
  rcases database.attempt_cases delivery op state with
    ⟨error, failed⟩ | ⟨reply, after, answer, told | lost⟩
  · rw [failed]
    exact untouched error
  · rw [told]
    exact (executed reply after answer).1
  · rw [lost]
    exact (executed reply after answer).2

/-- A program that only reads or fails leaves the state alone. -/
theorem ensures_call_read {op : Op}
    {post : Except Error (Reply op) → State → Prop} {state : State}
    (reads : ∀ reply after,
      database.execute op state = .ok (reply, after) → after = state)
    (failed : ∀ error, post (.error error) state)
    (answered : ∀ reply,
      database.execute op state = .ok (reply, state) → post (.ok reply) state) :
    (call op).Ensures database post state := by
  apply ensures_call failed
  intro reply after executed
  have unchanged : after = state := reads reply after executed
  subst after
  exact ⟨answered reply executed, failed database.disconnected⟩

theorem ensures_check {verdict : Except Error Result}
    {post : Except Error Result → State → Prop} {state : State}
    (holds : post verdict state) :
    (check verdict : Program Op Reply Error Result).Ensures database post state := by
  cases verdict with
  | ok result => exact holds
  | error error => exact holds

/-- The rule for a check in front of a program. -/
theorem ensures_check_bind {verdict : Except Error Result}
    {rest : Result → Program Op Reply Error Other}
    {post : Except Error Other → State → Prop} {state : State}
    (failed : ∀ error, verdict = .error error → post (.error error) state)
    (passed : ∀ result, verdict = .ok result →
      (rest result).Ensures database post state) :
    (check verdict >>= rest).Ensures database post state := by
  cases verdict with
  | ok result => exact passed result rfl
  | error error => exact failed error rfl

/-- A computation after the last statement changes nothing. -/
theorem ensures_bind_done {program : Program Op Reply Error Result}
    {make : Result → Other} {post : State → Prop} {state : State}
    (ensured : program.Ensures database (fun _ after => post after) state) :
    (program >>= fun result => done (make result)).Ensures database
      (fun _ after => post after) state := by
  apply ensures_bind
  apply Ensures.mono _ ensured
  intro result after holds
  cases result with
  | ok result => exact holds
  | error error => exact holds

/-- Every statement the program may issue is of a kind. -/
def Issues (kind : Op → Prop) : Program Op Reply Error Result → Prop
  | done _ => True
  | fail _ => True
  | perform op next => kind op ∧ ∀ reply, (next reply).Issues kind

theorem issues_bind {kind : Op → Prop} {rest : Result → Program Op Reply Error Other}
    (after : ∀ result, (rest result).Issues kind)
    {program : Program Op Reply Error Result} (issues : program.Issues kind) :
    (program >>= rest).Issues kind := by
  induction program with
  | done result =>
      exact after result
  | fail error =>
      trivial
  | perform op next inductionHypothesis =>
      constructor
      · exact issues.1
      · intro reply
        exact inductionHypothesis reply (issues.2 reply)

theorem issues_orElse {kind : Op → Prop}
    {handler : Error → Program Op Reply Error Result}
    (recovers : ∀ error, (handler error).Issues kind)
    {program : Program Op Reply Error Result} (issues : program.Issues kind) :
    (program.orElse handler).Issues kind := by
  induction program with
  | done result =>
      trivial
  | fail error =>
      exact recovers error
  | perform op next inductionHypothesis =>
      constructor
      · exact issues.1
      · intro reply
        exact inductionHypothesis reply (issues.2 reply)

theorem issues_finallyDo {kind : Op → Prop} {cleanup : Program Op Reply Error Unit}
    (cleans : cleanup.Issues kind)
    {program : Program Op Reply Error Result} (issues : program.Issues kind) :
    (program.finallyDo cleanup).Issues kind := by
  induction program with
  | done result =>
      exact issues_bind (fun _ => by trivial) cleans
  | fail error =>
      exact issues_bind (fun _ => by trivial) cleans
  | perform op next inductionHypothesis =>
      constructor
      · exact issues.1
      · intro reply
        exact inductionHypothesis reply (issues.2 reply)

theorem issues_call {kind : Op → Prop} {op : Op} (this : kind op) :
    (call op : Program Op Reply Error (Reply op)).Issues kind :=
  ⟨this, fun reply => by cases reply <;> trivial⟩

theorem issues_check {kind : Op → Prop} (verdict : Except Error Result) :
    (check verdict : Program Op Reply Error Result).Issues kind := by
  cases verdict with
  | ok result => trivial
  | error error => trivial

/-- Every result the program may end with is allowed. -/
def Returns (allowed : Result → Prop) : Program Op Reply Error Result → Prop
  | done result => allowed result
  | fail _ => True
  | perform _ next => ∀ reply, (next reply).Returns allowed

theorem Returns.mono {allowed weaker : Result → Prop}
    (weaken : ∀ result, allowed result → weaker result)
    {program : Program Op Reply Error Result} (returns : program.Returns allowed) :
    program.Returns weaker := by
  induction program with
  | done result => exact weaken result returns
  | fail error => trivial
  | perform op next inductionHypothesis =>
      intro reply
      exact inductionHypothesis reply (returns reply)

theorem returns_bind {first : Result → Prop} {allowed : Other → Prop}
    {rest : Result → Program Op Reply Error Other}
    (after : ∀ result, first result → (rest result).Returns allowed)
    {program : Program Op Reply Error Result} (returns : program.Returns first) :
    (program >>= rest).Returns allowed := by
  induction program with
  | done result => exact after result returns
  | fail error => trivial
  | perform op next inductionHypothesis =>
      intro reply
      exact inductionHypothesis reply (returns reply)

theorem returns_true (program : Program Op Reply Error Result) :
    program.Returns fun _ => True := by
  induction program with
  | done result => trivial
  | fail error => trivial
  | perform op next inductionHypothesis => exact inductionHypothesis

/-- A cleanup does not change the result. -/
theorem returns_finallyDo {allowed : Result → Prop} (cleanup : Program Op Reply Error Unit)
    {program : Program Op Reply Error Result} (returns : program.Returns allowed) :
    (program.finallyDo cleanup).Returns allowed := by
  induction program with
  | done result => exact returns_bind (fun _ _ => returns) (returns_true cleanup)
  | fail error => exact returns_bind (fun _ _ => by trivial) (returns_true cleanup)
  | perform op next inductionHypothesis =>
      intro reply
      exact inductionHypothesis reply (returns reply)

/-- The invariant rule: what every statement of the kind keeps, the program
keeps, whatever becomes of it. -/
theorem ensures_invariant {kind : Op → Prop} {invariant : State → Prop}
    (keeps : ∀ op, kind op → ∀ state reply after, invariant state →
      database.execute op state = .ok (reply, after) → invariant after) :
    ∀ {program : Program Op Reply Error Result} {state : State},
      program.Issues kind → invariant state →
        program.Ensures database (fun _ after => invariant after) state := by
  intro program
  induction program with
  | done result =>
      intro state _issues holds
      exact holds
  | fail error =>
      intro state _issues holds
      exact holds
  | perform op next inductionHypothesis =>
      intro state issues holds delivery
      obtain ⟨this, others⟩ := issues
      have kept : invariant (database.attempt delivery op state).2 := by
        rcases database.attempt_cases delivery op state with
          ⟨error, failed⟩ | ⟨reply, after, executed, told | lost⟩
        · rw [failed]
          exact holds
        · rw [told]
          exact keeps op this state reply after holds executed
        · rw [lost]
          exact keeps op this state reply after holds executed
      exact inductionHypothesis _ (others _) kept

/-- The frame rule: a view that no statement of the kind changes is the same
whatever becomes of the program. -/
theorem ensures_frame {View : Type} {kind : Op → Prop} (view : State → View)
    (frame : ∀ op, kind op → ∀ state reply after,
      database.execute op state = .ok (reply, after) → view after = view state)
    {program : Program Op Reply Error Result} {state : State}
    (issues : program.Issues kind) :
    program.Ensures database (fun _ after => view after = view state) state := by
  refine
    @ensures_invariant _ _ _ _ _ _ kind (fun after => view after = view state)
      ?_ _ _ issues rfl
  intro op this before reply after same executed
  exact (frame op this before reply after executed).trans same

end Program

/-! ## Environments -/

/-- An answer to every statement: what surrounds a program that issues no
statement twice. -/
abbrev Environment (Op : Type) (Reply : Op → Type) (Error : Type) :=
  (op : Op) → Except Error (Reply op)

namespace Program

variable (environment : Environment Op Reply Error)

/-- How a program ends in an environment. -/
def outcomeIn : Program Op Reply Error Result → Except Error Result
  | done result => .ok result
  | fail error => .error error
  | perform op next => (next (environment op)).outcomeIn

/-- The statements that a program issues in an environment. -/
def issuedIn : Program Op Reply Error Result → List Op
  | done _ => []
  | fail _ => []
  | perform op next => op :: (next (environment op)).issuedIn

variable {environment}

section Sequence

variable {program : Program Op Reply Error Result} {result : Result} {error : Error}

theorem outcomeIn_bind_ok {rest : Result → Program Op Reply Error Other}
    (ended : program.outcomeIn environment = .ok result) :
    (program >>= rest).outcomeIn environment = (rest result).outcomeIn environment := by
  induction program with
  | done first =>
      cases ended
      rfl
  | fail first => cases ended
  | perform op next inductionHypothesis => exact inductionHypothesis (environment op) ended

theorem outcomeIn_bind_error {rest : Result → Program Op Reply Error Other}
    (ended : program.outcomeIn environment = .error error) :
    (program >>= rest).outcomeIn environment = .error error := by
  induction program with
  | done first => cases ended
  | fail first =>
      cases ended
      rfl
  | perform op next inductionHypothesis => exact inductionHypothesis (environment op) ended

theorem issuedIn_bind_ok {rest : Result → Program Op Reply Error Other}
    (ended : program.outcomeIn environment = .ok result) :
    (program >>= rest).issuedIn environment =
      program.issuedIn environment ++ (rest result).issuedIn environment := by
  induction program with
  | done first =>
      cases ended
      rfl
  | fail first => cases ended
  | perform op next inductionHypothesis =>
      exact congrArg (List.cons op) (inductionHypothesis (environment op) ended)

theorem issuedIn_bind_error {rest : Result → Program Op Reply Error Other}
    (ended : program.outcomeIn environment = .error error) :
    (program >>= rest).issuedIn environment = program.issuedIn environment := by
  induction program with
  | done first => cases ended
  | fail first => rfl
  | perform op next inductionHypothesis =>
      exact congrArg (List.cons op) (inductionHypothesis (environment op) ended)

theorem outcomeIn_orElse_ok {handler : Error → Program Op Reply Error Result}
    (ended : program.outcomeIn environment = .ok result) :
    (program.orElse handler).outcomeIn environment = .ok result := by
  induction program with
  | done first => exact ended
  | fail first => cases ended
  | perform op next inductionHypothesis => exact inductionHypothesis (environment op) ended

theorem outcomeIn_orElse_error {handler : Error → Program Op Reply Error Result}
    (ended : program.outcomeIn environment = .error error) :
    (program.orElse handler).outcomeIn environment = (handler error).outcomeIn environment := by
  induction program with
  | done first => cases ended
  | fail first =>
      cases ended
      rfl
  | perform op next inductionHypothesis => exact inductionHypothesis (environment op) ended

theorem issuedIn_orElse_ok {handler : Error → Program Op Reply Error Result}
    (ended : program.outcomeIn environment = .ok result) :
    (program.orElse handler).issuedIn environment = program.issuedIn environment := by
  induction program with
  | done first => rfl
  | fail first => cases ended
  | perform op next inductionHypothesis =>
      exact congrArg (List.cons op) (inductionHypothesis (environment op) ended)

theorem issuedIn_orElse_error {handler : Error → Program Op Reply Error Result}
    (ended : program.outcomeIn environment = .error error) :
    (program.orElse handler).issuedIn environment =
      program.issuedIn environment ++ (handler error).issuedIn environment := by
  induction program with
  | done first => cases ended
  | fail first =>
      cases ended
      rfl
  | perform op next inductionHypothesis =>
      exact congrArg (List.cons op) (inductionHypothesis (environment op) ended)

end Sequence

/-- A cleanup that succeeds leaves the outcome as it is. -/
theorem outcomeIn_finallyDo {cleanup : Program Op Reply Error Unit}
    (succeeds : cleanup.outcomeIn environment = .ok ())
    (program : Program Op Reply Error Result) :
    (program.finallyDo cleanup).outcomeIn environment = program.outcomeIn environment := by
  induction program with
  | done result => exact outcomeIn_bind_ok succeeds
  | fail error => exact outcomeIn_bind_ok succeeds
  | perform op next inductionHypothesis => exact inductionHypothesis (environment op)

theorem issuedIn_finallyDo {cleanup : Program Op Reply Error Unit}
    (succeeds : cleanup.outcomeIn environment = .ok ())
    (program : Program Op Reply Error Result) :
    (program.finallyDo cleanup).issuedIn environment =
      program.issuedIn environment ++ cleanup.issuedIn environment := by
  induction program with
  | done result => exact (issuedIn_bind_ok succeeds).trans (List.append_nil _)
  | fail error => exact (issuedIn_bind_ok succeeds).trans (List.append_nil _)
  | perform op next inductionHypothesis =>
      exact congrArg (List.cons op) (inductionHypothesis (environment op))

@[simp]
theorem outcomeIn_call (op : Op) :
    (call op : Program Op Reply Error (Reply op)).outcomeIn environment = environment op := by
  unfold call branch outcomeIn
  cases environment op with
  | ok reply => rfl
  | error error => rfl

@[simp]
theorem issuedIn_call (op : Op) :
    (call op : Program Op Reply Error (Reply op)).issuedIn environment = [op] := by
  unfold call branch issuedIn
  cases environment op with
  | ok reply => rfl
  | error error => rfl

theorem kind_of_issuedIn {kind : Op → Prop} {program : Program Op Reply Error Result}
    (issues : program.Issues kind) : ∀ op ∈ program.issuedIn environment, kind op := by
  induction program with
  | done result => simp [issuedIn]
  | fail error => simp [issuedIn]
  | perform op next inductionHypothesis =>
      intro issued member
      rcases List.mem_cons.mp member with rfl | later
      · exact issues.1
      · exact inductionHypothesis (environment op) (issues.2 _) issued later

/-- A selection that passes over every statement of a program. -/
theorem filterMap_issuedIn {Selected : Type} {select : Op → Option Selected}
    {program : Program Op Reply Error Result}
    (issues : program.Issues fun op => select op = none) :
    (program.issuedIn environment).filterMap select = [] :=
  List.filterMap_eq_nil_iff.mpr (kind_of_issuedIn issues)

end Program

end Execution

end PlatformArchitecture.Foundations
