import Mathlib.Data.Set.Subsingleton
import PlatformArchitecture.Postgres.AdvisoryLock

/-!
# Exclusion by advisory locks

Over any schedule of calls, failures, lost connections and crashes, of the
calls for one lock that run their functions at most one has its connection, and
every lock that is held is accounted for: by a call between its acquisition and
its unlock, or by a statement that failed.
-/

namespace PlatformArchitecture.Postgres

open PlatformArchitecture.Foundations

/-! ## The rest of the program at each stage -/

section Stages

variable {Session Result : Type}

private def settle (outcome : Except LockError Result) : LockProgram Session Result Result :=
  match outcome with
  | .ok result => .done result
  | .error error => .fail error

private def giveClientBack (client : Session) (outcome : Except LockError Result) :
    LockProgram Session Result Result :=
  .branch (.release client) (fun _ => settle outcome) .fail

private def giveLockBack (client : Session) (key : String) (outcome : Except LockError Result) :
    LockProgram Session Result Result :=
  .branch (.advisoryUnlock client key) (fun _ => giveClientBack client outcome)
    fun error => giveClientBack client (.error error)

private def protect (client : Session) (key : String) : LockProgram Session Result Result :=
  .branch .fn (fun result => giveLockBack client key (.ok result))
    fun error => giveLockBack client key (.error error)

private def tryLock (client : Session) (key : String) : LockProgram Session Result Result :=
  .branch (.tryAdvisoryLock client key)
    (fun acquired =>
      if acquired = true then protect client key
      else giveClientBack client (.error .lockUnavailable))
    fun error => giveClientBack client (.error error)

/-- Where a call stands. -/
inductive LockStage (Session Result : Type) where
  | connecting
  | trying (client : Session)
  | inside (client : Session)
  | unlocking (client : Session) (outcome : Except LockError Result)
  | releasing (client : Session) (outcome : Except LockError Result)
  | ended (outcome : Except LockError Result)

/-- What is left of the program of a call at a stage. -/
def LockStage.program (key : String) :
    LockStage Session Result → LockProgram Session Result Result
  | .connecting => .branch .connect (fun client => tryLock client key) .fail
  | .trying client => tryLock client key
  | .inside client => protect client key
  | .unlocking client outcome => giveLockBack client key outcome
  | .releasing client outcome => giveClientBack client outcome
  | .ended outcome => settle outcome

theorem withLock_eq (key : String) :
    withLock Session Result key = LockStage.connecting.program key := by
  simp only [withLock, awaitLock, Program.call, Program.branch_bind, Program.done_bind,
    Program.fail_bind, Program.branch_finallyDo, Program.ite_finallyDo, Program.done_finallyDo,
    Program.fail_finallyDo, Program.pure_eq, Program.throw_eq]
  rfl

end Stages

/-! ## What is known of a call and of a session -/

section Invariant

variable {Pid Session Lock Result : Type} [DecidableEq Pid] [DecidableEq Session]
  [DecidableEq Lock]

/-- A session holds what it has taken for its call, if it has, and what is
stray. -/
def LockState.Accounts (state : LockState Pid Session Lock) (client : Session)
    (taken : Option Lock) : Prop :=
  ∀ lock, state.locks.holds client lock =
    (if taken = some lock then 1 else 0) + state.stray.count (client, lock)

/-- A session that ended holds nothing, and one that nobody has holds what is
stray. -/
structure LockInvariant (state : LockState Pid Session Lock) : Prop where
  ended : ∀ client ∈ state.ended, state.Accounts client none ∧
    ∀ lock, state.locks.holds client lock = 0
  idle : ∀ client, (∀ pid, state.clients.itemOf pid ≠ some client) →
    state.Accounts client none

/-- A call has a client, which holds what it has taken unless it is gone. -/
def LockState.Has (state : LockState Pid Session Lock) (pid : Pid) (client : Session)
    (taken : Option Lock) : Prop :=
  state.clients.itemOf pid = some client ∧
    (client ∈ state.ended ∨ state.Accounts client taken)

/-- What is known of a call at a stage; `lock` is that of its key. -/
def LockStage.Holds (lock : Lock) (pid : Pid) (state : LockState Pid Session Lock) :
    LockStage Session Result → Prop
  | .connecting | .ended _ => state.clients.itemOf pid = none
  | .trying client | .releasing client _ => state.Has pid client none
  | .inside client | .unlocking client _ => state.Has pid client (some lock)

/-- The rest of the program of a call is that of a stage whose facts hold. -/
def AtLockStage (hash : String → Lock) (keys : Pid → String) (pid : Pid)
    (state : LockState Pid Session Lock) (program : LockProgram Session Result Result) : Prop :=
  ∃ stage : LockStage Session Result,
    stage.program (keys pid) = program ∧ stage.Holds (hash (keys pid)) pid state

/-- What other calls rely on when one call moves: their clients are still
theirs, and these hold what they held unless they are gone. -/
structure LockFrame (pid : Pid) (before after : LockState Pid Session Lock) : Prop where
  clients : after.clients.itemOf pid = before.clients.itemOf pid
  ended : ∀ client ∈ before.ended, client ∈ after.ended
  accounts : ∀ client taken, before.clients.itemOf pid = some client →
    client ∈ before.ended ∨ before.Accounts client taken →
      client ∈ after.ended ∨ after.Accounts client taken

theorem LockFrame.rfl {pid : Pid} {state : LockState Pid Session Lock} :
    LockFrame pid state state :=
  ⟨Eq.refl _, fun _ before => before, fun _ _ _ counted => counted⟩

theorem LockFrame.has {pid : Pid} {before after : LockState Pid Session Lock}
    (frame : LockFrame pid before after) {client : Session} {taken : Option Lock}
    (has : before.Has pid client taken) : after.Has pid client taken :=
  ⟨frame.clients.trans has.1, frame.accounts client taken has.1 has.2⟩

theorem AtLockStage.frame {hash : String → Lock} {keys : Pid → String} {pid : Pid}
    {before after : LockState Pid Session Lock} {program : LockProgram Session Result Result}
    (frame : LockFrame pid before after) (standing : AtLockStage hash keys pid before program) :
    AtLockStage hash keys pid after program := by
  obtain ⟨stage, same, holds⟩ := standing
  refine ⟨stage, same, ?_⟩
  cases stage with
  | connecting => exact frame.clients.trans holds
  | ended outcome => exact frame.clients.trans holds
  | trying client => exact frame.has holds
  | releasing client outcome => exact frame.has holds
  | inside client => exact frame.has holds
  | unlocking client outcome => exact frame.has holds

/-! ## What the operations keep -/

variable {state after : LockState Pid Session Lock} {client : Session} {lock : Lock} {pid : Pid}

omit [DecidableEq Pid] in
/-- Where sessions end, theirs is all that is given up. -/
theorem accounts_endSessions (state : LockState Pid Session Lock) (sessions : List Session)
    (taken : Option Lock) :
    (state.endSessions sessions).Accounts client taken ↔
      if client ∈ sessions then taken = none else state.Accounts client taken := by
  unfold LockState.Accounts LockState.endSessions
  simp only [SessionLocks.holds_endSessions, SessionLocks.count_withoutSessions]
  by_cases ends : client ∈ sessions
  · cases taken with
    | none => simp [ends]
    | some lock =>
        simp only [ends, if_true, reduceCtorEq, iff_false]
        intro every
        simpa using every lock
  · simp [ends]

theorem LockInvariant.endSessions (holds : LockInvariant state) (sessions : List Session) :
    LockInvariant (state.endSessions sessions) := by
  constructor
  · intro client member
    rw [accounts_endSessions]
    by_cases ends : client ∈ sessions
    · simp [LockState.endSessions, SessionLocks.holds_endSessions, ends]
    · have before : client ∈ state.ended := (List.mem_append.mp member).resolve_left ends
      simpa [LockState.endSessions, SessionLocks.holds_endSessions, ends] using
        holds.ended client before
  · intro client unlent
    rw [accounts_endSessions]
    by_cases ends : client ∈ sessions
    · simp [ends]
    · simpa [ends] using holds.idle client unlent

/-- The sessions that end are gone, and the others hold what they held. -/
theorem endSessions_frame (state : LockState Pid Session Lock) (sessions : List Session)
    (pid : Pid) : LockFrame pid state (state.endSessions sessions) where
  clients := rfl
  ended _ before := List.mem_append_right _ before
  accounts client taken _ accounts := by
    by_cases ends : client ∈ sessions
    · exact Or.inl (List.mem_append_left _ ends)
    · rcases accounts with before | counted
      · exact Or.inl (List.mem_append_right _ before)
      · refine Or.inr ((accounts_endSessions state sessions taken).mpr ?_)
        simpa [ends] using counted

/-- A call has moved to a state in which it has its client with what it has
taken, and all that others rely on is kept. -/
structure LockState.Reaches (state : LockState Pid Session Lock) (pid : Pid) (client : Session)
    (taken : Option Lock) (after : LockState Pid Session Lock) : Prop where
  invariant : LockInvariant after
  others : ∀ other, other ≠ pid → LockFrame other state after
  has : after.Has pid client taken

/-- A call changes what its own client holds. -/
theorem LockInvariant.reaches (holds : LockInvariant state)
    (borrowed : state.clients.itemOf pid = some client) (live : client ∉ state.ended)
    {locks : SessionLocks Session Lock} {stray : List (Session × Lock)} {taken : Option Lock}
    (elsewhere : ∀ other, other ≠ client → ∀ lock,
      locks.holds other lock = state.locks.holds other lock ∧
        stray.count (other, lock) = state.stray.count (other, lock))
    (accounts : { state with locks, stray }.Accounts client taken) :
    state.Reaches pid client taken { state with locks, stray } := by
  have kept : ∀ other taken, other ≠ client → state.Accounts other taken →
      { state with locks, stray }.Accounts other taken := by
    intro other taken different counted lock
    have same := elsewhere other different lock
    simp only [same.1, same.2]
    exact counted lock
  constructor
  · constructor
    · intro other member
      have different : other ≠ client := fun same => live (same ▸ member)
      refine ⟨kept other none different (holds.ended other member).1, ?_⟩
      intro lock
      simp only [(elsewhere other different lock).1]
      exact (holds.ended other member).2 lock
    · intro other unlent
      have different : other ≠ client := fun same => unlent pid (same ▸ borrowed)
      exact kept other none different (holds.idle other unlent)
  · intro other different
    refine ⟨rfl, fun _ before => before, ?_⟩
    intro session taken has counted
    have differs : session ≠ client := by
      intro same
      exact different (Lending.borrower_unique borrowed (same ▸ has))
    exact counted.imp_right (kept session taken differs)
  · exact ⟨borrowed, Or.inr accounts⟩

/-- A query of the client of a call. -/
theorem query_reaches (holds : LockInvariant state)
    (borrowed : state.clients.itemOf pid = some client) {Reply : Type} {fault : Fault}
    {carriedOut : Reply × LockState Pid Session Lock} {failed unseen : LockState Pid Session Lock}
    {reply : Except LockError Reply} {taken : Option Lock}
    (carried : client ∉ state.ended → state.Reaches pid client taken carriedOut.2)
    (failing : client ∉ state.ended → state.Reaches pid client none failed)
    (unacknowledged : client ∉ state.ended → state.Reaches pid client none unseen)
    (answer : state.query client fault carriedOut failed unseen = (reply, after)) :
    (reply = .ok carriedOut.1 ∧ state.Reaches pid client taken after) ∨
      ∃ error, reply = .error error ∧ state.Reaches pid client none after := by
  unfold LockState.query at answer
  split at answer
  · next gone =>
      cases answer
      have ended : client ∈ state.ended := by simpa using gone
      exact Or.inr ⟨.query, rfl, holds, fun other _ => LockFrame.rfl, borrowed, Or.inl ended⟩
  · next connected =>
      have live : client ∉ state.ended := by simpa using connected
      cases fault with
      | none =>
          cases answer
          exact Or.inl ⟨rfl, carried live⟩
      | statementError =>
          cases answer
          exact Or.inr ⟨.query, rfl, failing live⟩
      | acknowledgementLost =>
          cases answer
          exact Or.inr ⟨.query, rfl, unacknowledged live⟩
      | connectionLost =>
          cases answer
          exact Or.inr ⟨.query, rfl, holds.endSessions [client],
            fun other _ => endSessions_frame state [client] other, borrowed,
            Or.inl (List.mem_append_left _ List.mem_cons_self)⟩

/-- A client that holds only what is stray takes a lock. -/
theorem acquired_reaches (holds : LockInvariant state) (has : state.Has pid client none)
    (live : client ∉ state.ended) (taken : (state.locks.tryAcquire client lock).1 = true) :
    state.Reaches pid client (some lock)
        { state with locks := (state.locks.tryAcquire client lock).2 } ∧
      state.Reaches pid client none
        { state with
          locks := (state.locks.tryAcquire client lock).2
          stray := (client, lock) :: state.stray } := by
  have before := has.2.resolve_left live
  have elsewhere : ∀ other, other ≠ client → ∀ otherLock,
      (state.locks.tryAcquire client lock).2.holds other otherLock =
        state.locks.holds other otherLock := by
    intro other different otherLock
    simp [SessionLocks.holds_tryAcquire taken, Ne.symm different]
  constructor
  · apply holds.reaches has.1 live
    · intro other different otherLock
      exact ⟨elsewhere other different otherLock, rfl⟩
    · intro otherLock
      have counted := before otherLock
      simp only [SessionLocks.holds_tryAcquire taken, counted]
      by_cases same : lock = otherLock
      · simp [same, Nat.add_comm]
      · simp [same]
  · apply holds.reaches has.1 live
    · intro other different otherLock
      exact ⟨elsewhere other different otherLock, by simp [Ne.symm different]⟩
    · intro otherLock
      have counted := before otherLock
      simp only [SessionLocks.holds_tryAcquire taken, counted, List.count_cons]
      by_cases same : lock = otherLock
      · simp [same]
      · simp [same]

theorem unchanged_reaches (holds : LockInvariant state) {taken : Option Lock}
    (has : state.Has pid client taken) : state.Reaches pid client taken state :=
  ⟨holds, fun _ _ => LockFrame.rfl, has⟩

/-- A lock is taken for the call, or the call has its client as before. -/
theorem tryAdvisoryLock_reaches (holds : LockInvariant state) (has : state.Has pid client none)
    {fault : Fault} {reply : Except LockError Bool}
    (answer : state.tryAdvisoryLock lock client fault = (reply, after)) :
    (reply = .ok true ∧ state.Reaches pid client (some lock) after) ∨
      (reply ≠ .ok true ∧ state.Reaches pid client none after) := by
  have unchanged := unchanged_reaches holds has
  unfold LockState.tryAdvisoryLock at answer
  cases taken : (state.locks.tryAcquire client lock).1 with
  | true =>
      simp only [taken, if_true] at answer
      rcases query_reaches holds has.1
        (fun live => (acquired_reaches holds has live taken).1) (fun _ => unchanged)
        (fun live => (acquired_reaches holds has live taken).2) answer with
        ⟨rfl, reached⟩ | ⟨error, rfl, reached⟩
      · exact Or.inl ⟨rfl, reached⟩
      · exact Or.inr ⟨by simp, reached⟩
  | false =>
      simp only [taken, SessionLocks.tryAcquire_refused taken, Bool.false_eq_true, if_false]
        at answer
      rcases query_reaches holds has.1 (fun _ => unchanged) (fun _ => unchanged)
        (fun _ => unchanged) answer with ⟨rfl, reached⟩ | ⟨error, rfl, reached⟩
      · exact Or.inr ⟨by simp, reached⟩
      · exact Or.inr ⟨by simp, reached⟩

/-- After the unlock, whatever became of it, the call has taken nothing. -/
theorem advisoryUnlock_reaches (holds : LockInvariant state)
    (has : state.Has pid client (some lock)) {fault : Fault} {reply : Except LockError Bool}
    (answer : state.advisoryUnlock lock client fault = (reply, after)) :
    state.Reaches pid client none after := by
  have given : client ∉ state.ended →
      state.Reaches pid client none
        { state with locks := (state.locks.unlock client lock).2 } := by
    intro live
    apply holds.reaches has.1 live
    · intro other different otherLock
      exact ⟨by simp [SessionLocks.holds_unlock, Ne.symm different], rfl⟩
    · intro otherLock
      have counted := has.2.resolve_left live otherLock
      simp only [SessionLocks.holds_unlock, counted]
      by_cases same : lock = otherLock
      · simp [same]
      · simp [same]
  have kept : client ∉ state.ended →
      state.Reaches pid client none { state with stray := (client, lock) :: state.stray } := by
    intro live
    apply holds.reaches has.1 live
    · intro other different otherLock
      exact ⟨rfl, by simp [Ne.symm different]⟩
    · intro otherLock
      have counted := has.2.resolve_left live otherLock
      simp only [counted, List.count_cons]
      by_cases same : lock = otherLock
      · simp [same, Nat.add_comm]
      · simp [same]
  rcases query_reaches holds has.1 given kept given answer with
    ⟨-, reached⟩ | ⟨_, -, reached⟩
  · exact reached
  · exact reached

/-- A call that asks for a client gets one that holds only what is stray. -/
theorem connect_reaches (holds : LockInvariant state) (waiting : state.clients.itemOf pid = none)
    {choice : LockChoice Session Result} {reply : Except LockError Session}
    (answer : state.connect pid choice = some (reply, after)) :
    LockInvariant after ∧ (∀ other, other ≠ pid → LockFrame other state after) ∧
      match reply with
      | .ok client => after.Has pid client none
      | .error _ => after.clients.itemOf pid = none := by
  unfold LockState.connect at answer
  obtain ⟨closed, isClosed⟩ : ∃ closed, state.closeIdle choice.closed = closed := ⟨_, rfl⟩
  have invariant : LockInvariant closed := isClosed ▸ holds.endSessions _
  have frame : ∀ other, LockFrame other state closed :=
    fun other => isClosed ▸ endSessions_frame state _ other
  have same : closed.clients = state.clients := isClosed ▸ rfl
  rw [isClosed] at answer
  cases faulty : choice.fault with
  | statementError | connectionLost | acknowledgementLost =>
      simp only [faulty, Option.some.injEq, Prod.mk.injEq] at answer
      obtain ⟨rfl, rfl⟩ := answer
      have free : closed.clients.itemOf pid = none := by
        rw [same]
        exact waiting
      exact ⟨invariant, fun other _ => frame other, free⟩
  | none =>
      simp only [faulty] at answer
      split at answer
      · cases answer
      · simp only [Option.map_eq_some_iff, Prod.mk.injEq] at answer
        obtain ⟨clients, lent, rfl, rfl⟩ := answer
        obtain ⟨-, borrowed, unlent, others⟩ := Lending.lend_spec lent
        refine ⟨⟨invariant.ended, ?_⟩, ?_, borrowed, Or.inr (invariant.idle _ unlent)⟩
        · intro client nobody
          apply invariant.idle client
          intro other has
          by_cases own : other = pid
          · rw [own, same, waiting] at has
            cases has
          · exact nobody other ((others other own).trans has)
        · intro other different
          exact ⟨(others other different).trans (frame other).clients, (frame other).ended,
            (frame other).accounts⟩

/-- A call gives its client back with nothing taken. -/
theorem release_keeps (holds : LockInvariant state) (has : state.Has pid client none) :
    LockInvariant { state with clients := state.clients.giveBack pid } ∧
      (∀ other, other ≠ pid →
        LockFrame other state { state with clients := state.clients.giveBack pid }) ∧
      (state.clients.giveBack pid).itemOf pid = none := by
  refine ⟨⟨holds.ended, ?_⟩, ?_, Lending.itemOf_giveBack_self⟩
  · intro other nobody
    by_cases own : other = client
    · subst own
      rcases has.2 with ended | accounts
      · exact (holds.ended other ended).1
      · exact accounts
    · apply holds.idle other
      intro borrower borrowed
      by_cases self : borrower = pid
      · rw [self, has.1] at borrowed
        exact own (Option.some.inj borrowed).symm
      · exact nobody borrower ((Lending.itemOf_giveBack_other self).trans borrowed)
  · intro other different
    exact ⟨Lending.itemOf_giveBack_other different, fun _ before => before,
      fun _ _ _ counted => counted⟩

/-! ## Runs -/

variable {hash : String → Lock} {keys : Pid → String}

/-- A statement leads a call to its next stage. -/
theorem AtLockStage.advance {choice : LockChoice Session Result}
    {statement : LockStatement Session Result}
    {next : Except LockError statement.Reply → LockProgram Session Result Result}
    {reply : Except LockError statement.Reply} (holds : LockInvariant state)
    (standing : AtLockStage hash keys pid state (.perform statement next))
    (outcome : lockOutcome hash pid choice statement state = some (reply, after)) :
    LockInvariant after ∧ AtLockStage hash keys pid after (next reply) ∧
      ∀ other, other ≠ pid → LockFrame other state after := by
  obtain ⟨stage, same, facts⟩ := standing
  cases stage with
  | ended result => cases result <;> cases same
  | connecting =>
      cases same
      obtain ⟨kept, others, arrived⟩ := connect_reaches holds facts outcome
      cases reply with
      | ok client => exact ⟨kept, ⟨.trying client, rfl, arrived⟩, others⟩
      | error error => exact ⟨kept, ⟨.ended (.error error), rfl, arrived⟩, others⟩
  | trying client =>
      cases same
      simp only [lockOutcome, Option.some.injEq] at outcome
      rcases tryAdvisoryLock_reaches holds facts outcome with
        ⟨rfl, reached⟩ | ⟨refused, reached⟩
      · exact ⟨reached.invariant, ⟨.inside client, rfl, reached.has⟩, reached.others⟩
      · refine ⟨reached.invariant, ?_, reached.others⟩
        cases reply with
        | error error => exact ⟨.releasing client (.error error), rfl, reached.has⟩
        | ok acquired =>
            cases acquired with
            | true => exact absurd rfl refused
            | false => exact ⟨.releasing client (.error .lockUnavailable), rfl, reached.has⟩
  | inside client =>
      cases same
      simp only [lockOutcome] at outcome
      cases settled : choice.outcome with
      | some result =>
          rw [settled] at outcome
          cases outcome
          exact ⟨holds, ⟨.unlocking client (.ok result), rfl, facts⟩, fun _ _ => LockFrame.rfl⟩
      | none =>
          rw [settled] at outcome
          cases outcome
          exact ⟨holds, ⟨.unlocking client (.error .threw), rfl, facts⟩,
            fun _ _ => LockFrame.rfl⟩
  | unlocking client result =>
      cases same
      simp only [lockOutcome, Option.some.injEq] at outcome
      have reached := advisoryUnlock_reaches holds facts outcome
      cases reply with
      | ok _ => exact ⟨reached.invariant, ⟨.releasing client result, rfl, reached.has⟩,
          reached.others⟩
      | error error => exact ⟨reached.invariant,
          ⟨.releasing client (.error error), rfl, reached.has⟩, reached.others⟩
  | releasing client result =>
      cases same
      cases outcome
      obtain ⟨kept, others, returned⟩ := release_keeps holds facts
      exact ⟨kept, ⟨.ended result, rfl, returned⟩, others⟩

/-- Every call is at a stage whose facts hold, and a call that crashed has lost
the connection of its client. -/
structure LockWorldInvariant (hash : String → Lock) (keys : Pid → String)
    (world : LockWorld Pid Session Lock Result) : Prop where
  consistent : world.Consistent LockInvariant (AtLockStage hash keys)
  crashed : ∀ pid client, world.programs pid = none →
    world.shared.clients.itemOf pid = some client → client ∈ world.shared.ended

theorem lockWorldInvariant_start :
    LockWorldInvariant hash keys (lockStart keys : LockWorld Pid Session Lock Result) where
  consistent :=
    { shared :=
        { ended := fun _ member => absurd member List.not_mem_nil
          idle := fun _ _ _ => rfl }
      points := by
        intro pid program running
        cases running
        exact ⟨.connecting, (withLock_eq (keys pid)).symm, rfl⟩ }
  crashed := by
    intro pid client none
    cases none

/-- A connection that is lost. -/
theorem LockWorldInvariant.disconnect {world : LockWorld Pid Session Lock Result}
    (holds : LockWorldInvariant hash keys world) (pid : Pid)
    (programs : Pid → Option (LockProgram Session Result Result))
    (others : ∀ other program, programs other = some program →
      world.programs other = some program)
    (gone : ∀ other, programs other = none → other = pid ∨ world.programs other = none) :
    LockWorldInvariant hash keys
      { shared := world.shared.endSessions (world.shared.clients.itemOf pid).toList
        programs } where
  consistent :=
    { shared := holds.consistent.shared.endSessions _
      points := by
        intro other program running
        have standing := holds.consistent.points other program (others other program running)
        exact standing.frame (endSessions_frame world.shared _ other) }
  crashed := by
    intro other client crashed borrowed
    rcases gone other crashed with rfl | before
    · have own : world.shared.clients.itemOf other = some client := borrowed
      simp [LockState.endSessions, own]
    · exact List.mem_append_right _ (holds.crashed other client before borrowed)

theorem LockWorldInvariant.step {world : LockWorld Pid Session Lock Result}
    (holds : LockWorldInvariant hash keys world) (event : Event Pid (LockChoice Session Result)) :
    LockWorldInvariant hash keys (world.step (lockServer hash) event) := by
  cases event with
  | disconnect pid =>
      exact holds.disconnect pid world.programs (fun _ _ running => running)
        fun _ crashed => Or.inr crashed
  | crash pid =>
      apply holds.disconnect pid
      · intro other program running
        exact of_update_none running
      · intro other crashed
        rcases update_cases crashed with ⟨same, -⟩ | ⟨-, before⟩
        · exact Or.inl same
        · exact Or.inr before
  | statement pid choice =>
      apply World.statement_preserves holds
      intro statement next reply shared current answer
      obtain ⟨invariant, arrived, others⟩ :=
        AtLockStage.advance holds.consistent.shared
          (holds.consistent.points pid _ current) answer
      refine ⟨⟨invariant, ?_⟩, ?_⟩
      · intro other program running
        rcases update_cases running with ⟨rfl, isNext⟩ | ⟨different, before⟩
        · cases isNext
          exact arrived
        · exact (holds.consistent.points other program before).frame (others other different)
      · intro other client crashed borrowed
        rcases update_cases crashed with ⟨-, running⟩ | ⟨different, before⟩
        · cases running
        · have frame := others other different
          exact frame.ended client
            (holds.crashed other client before (frame.clients.symm.trans borrowed))

theorem lockWorldInvariant_run (hash : String → Lock) (keys : Pid → String)
    (events : List (Event Pid (LockChoice Session Result))) :
    LockWorldInvariant hash keys
      (run (World.step (lockServer hash)) (lockStart keys) events) :=
  run_invariant_of_step (fun _ event holds => holds.step event) events lockWorldInvariant_start

/-- The client of a call has its connection. -/
def Connected (world : LockWorld Pid Session Lock Result) (pid : Pid) (client : Session) : Prop :=
  world.shared.clients.itemOf pid = some client ∧ client ∉ world.shared.ended

/-- Of the calls whose keys have one lock, at most one runs its function on a
connection that is not lost. -/
theorem insideLock_exclusive (hash : String → Lock) (keys : Pid → String)
    (events : List (Event Pid (LockChoice Session Result))) (lock : Lock) :
    let world := run (World.step (lockServer hash)) (lockStart keys) events
    {pid | hash (keys pid) = lock ∧ InsideLock world pid ∧
      ∃ client, Connected world pid client}.Subsingleton := by
  intro world
  have holds : LockWorldInvariant hash keys world := lockWorldInvariant_run hash keys events
  have holding : ∀ pid client, hash (keys pid) = lock → InsideLock world pid →
      Connected world pid client → 0 < world.shared.locks.holds client lock := by
    intro pid client isLock ⟨next, running⟩ ⟨borrowed, live⟩
    obtain ⟨stage, same, facts⟩ := holds.consistent.points pid _ running
    cases stage with
    | inside own =>
        have own_eq : own = client := Option.some.inj (facts.1.symm.trans borrowed)
        have counted := facts.2.resolve_left (own_eq ▸ live) lock
        rw [own_eq, isLock, if_pos rfl] at counted
        omega
    | ended result => cases result <;> cases same
    | connecting | trying own | unlocking own result | releasing own result => cases same
  intro first ⟨isLock, inside, client, connected⟩ second ⟨otherLock, otherInside, other, lives⟩
  have sameClient : other = client :=
    SessionLocks.session_unique (holding first client isLock inside connected)
      (holding second other otherLock otherInside lives)
  exact Lending.borrower_unique lives.1 (sameClient ▸ connected.1)

/-! ## What is held -/

/-- The statements that a call issues while it has its lock. -/
def LockStatement.underLock : LockStatement Session Result → Bool
  | .fn | .advisoryUnlock _ _ => true
  | .connect | .tryAdvisoryLock _ _ | .release _ => false

/-- A call has taken its lock and has not given it back. -/
def BeforeUnlock (world : LockWorld Pid Session Lock Result) (pid : Pid) : Prop :=
  ∃ statement next, world.programs pid = some (.perform statement next) ∧
    statement.underLock = true

omit [DecidableEq Session] [DecidableEq Lock] in
/-- A stage before the unlock is one at which the lock is taken. -/
theorem LockStage.taken_of_underLock {key : String} {stage : LockStage Session Result}
    {statement : LockStatement Session Result}
    {next : Except LockError statement.Reply → LockProgram Session Result Result}
    (standing : stage.program key = .perform statement next) :
    statement.underLock = true ↔
      (∃ client, stage = .inside client) ∨ ∃ client result, stage = .unlocking client result := by
  cases stage with
  | ended result => cases result <;> cases standing
  | connecting | trying client | inside client | unlocking client result
  | releasing client result =>
      cases standing
      simp [LockStatement.underLock]

theorem LockWorldInvariant.holds_of_beforeUnlock {world : LockWorld Pid Session Lock Result}
    (holds : LockWorldInvariant hash keys world) (borrowed : Connected world pid client)
    (before : BeforeUnlock world pid) : (client, hash (keys pid)) ∈ world.shared.locks.held := by
  obtain ⟨statement, next, running, under⟩ := before
  obtain ⟨stage, same, facts⟩ := holds.consistent.points pid _ running
  have has : ∃ own, world.shared.Has pid own (some (hash (keys pid))) := by
    rcases (LockStage.taken_of_underLock same).mp under with
      ⟨own, rfl⟩ | ⟨own, result, rfl⟩
    · exact ⟨own, facts⟩
    · exact ⟨own, facts⟩
  obtain ⟨own, hasOwn, counted⟩ := has
  cases hasOwn.symm.trans borrowed.1
  have holdsOnce := counted.resolve_left borrowed.2 (hash (keys pid))
  rw [if_pos rfl] at holdsOnce
  apply SessionLocks.mem_held_iff.mpr
  omega

/-- What is held is stray, or held for a call that has not given it back. -/
theorem LockWorldInvariant.held_cases {world : LockWorld Pid Session Lock Result}
    (holds : LockWorldInvariant hash keys world)
    (held : (client, lock) ∈ world.shared.locks.held) :
    (client, lock) ∈ world.shared.stray ∨
      ∃ pid, hash (keys pid) = lock ∧ Connected world pid client ∧ BeforeUnlock world pid := by
  have positive := SessionLocks.mem_held_iff.mp held
  have live : client ∉ world.shared.ended := by
    intro ended
    have nothing := (holds.consistent.shared.ended client ended).2 lock
    omega
  have strayOf : world.shared.Accounts client none → (client, lock) ∈ world.shared.stray := by
    intro accounts
    have counted := accounts lock
    apply List.count_pos_iff.mp
    simp only [reduceCtorEq, if_false] at counted
    omega
  by_cases lent : ∃ pid, world.shared.clients.itemOf pid = some client
  · obtain ⟨pid, borrowed⟩ := lent
    cases running : world.programs pid with
    | none => exact absurd (holds.crashed pid client running borrowed) live
    | some program =>
        obtain ⟨stage, same, facts⟩ := holds.consistent.points pid program running
        have takenCase : (∃ statement next, program = .perform statement next ∧
            statement.underLock = true) → world.shared.Has pid client (some (hash (keys pid))) →
            (client, lock) ∈ world.shared.stray ∨
              ∃ pid, hash (keys pid) = lock ∧ Connected world pid client ∧
                BeforeUnlock world pid := by
          intro taken has
          obtain ⟨statement, next, isNext, under⟩ := taken
          by_cases own : hash (keys pid) = lock
          · exact Or.inr ⟨pid, own, ⟨borrowed, live⟩, statement, next, isNext ▸ running, under⟩
          · left
            have counted := has.2.resolve_left live lock
            apply List.count_pos_iff.mp
            simp only [Option.some.injEq, own, if_false] at counted
            omega
        cases stage with
        | connecting | ended result =>
            have unlent : world.shared.clients.itemOf pid = none := facts
            rw [unlent] at borrowed
            cases borrowed
        | trying own | releasing own result =>
            cases facts.1.symm.trans borrowed
            exact Or.inl (strayOf (facts.2.resolve_left live))
        | inside own | unlocking own result =>
            cases facts.1.symm.trans borrowed
            exact takenCase ⟨_, _, same.symm, rfl⟩ facts
  · push Not at lent
    exact Or.inl (strayOf (holds.consistent.shared.idle client lent))

/-- No query fails while its connection lives on. -/
def AnsweredOrLost (_world : LockWorld Pid Session Lock Result) :
    Event Pid (LockChoice Session Result) → Prop
  | .statement _ choice => choice.fault = .none ∨ choice.fault = .connectionLost
  | .disconnect _ | .crash _ => True

omit [DecidableEq Pid] [DecidableEq Lock] in
theorem stray_endSessions (none : state.stray = []) (sessions : List Session) :
    (state.endSessions sessions).stray = [] := by
  simp [LockState.endSessions, none]

omit [DecidableEq Pid] [DecidableEq Lock] in
/-- A query that is answered, or whose connection is lost, leaves nothing stray. -/
theorem stray_query (none : state.stray = []) {Reply : Type} {fault : Fault}
    {carriedOut : Reply × LockState Pid Session Lock} {failed unseen : LockState Pid Session Lock}
    (answered : fault = .none ∨ fault = .connectionLost) (kept : carriedOut.2.stray = []) :
    (state.query client fault carriedOut failed unseen).2.stray = [] := by
  unfold LockState.query
  split
  · exact none
  · rcases answered with rfl | rfl
    · exact kept
    · exact stray_endSessions none [client]

theorem stray_lockOutcome (none : state.stray = []) {choice : LockChoice Session Result}
    (answered : choice.fault = .none ∨ choice.fault = .connectionLost)
    {statement : LockStatement Session Result} {reply : Except LockError statement.Reply}
    (outcome : lockOutcome hash pid choice statement state = some (reply, after)) :
    after.stray = [] := by
  cases statement with
  | connect =>
      have closed := stray_endSessions none (choice.closed.filter fun session =>
        !(state.clients.loans.any fun loan => decide (loan.2 = session)))
      simp only [lockOutcome, LockState.connect] at outcome
      rcases answered with faultless | lost
      · rw [faultless] at outcome
        simp only at outcome
        split at outcome
        · cases outcome
        · obtain ⟨clients, -, same⟩ := Option.map_eq_some_iff.mp outcome
          cases same
          exact closed
      · rw [lost] at outcome
        cases outcome
        exact closed
  | tryAdvisoryLock client key =>
      have moved : (state.tryAdvisoryLock (hash key) client choice.fault).2 = after :=
        congrArg Prod.snd (Option.some.inj outcome)
      rw [← moved]
      exact stray_query none answered none
  | fn =>
      simp only [lockOutcome] at outcome
      split at outcome <;> cases outcome <;> exact none
  | advisoryUnlock client key =>
      have moved : (state.advisoryUnlock (hash key) client choice.fault).2 = after :=
        congrArg Prod.snd (Option.some.inj outcome)
      rw [← moved]
      exact stray_query none answered none
  | release client =>
      cases outcome
      exact none

theorem stray_step {world : LockWorld Pid Session Lock Result}
    {event : Event Pid (LockChoice Session Result)} (none : world.shared.stray = [])
    (answered : AnsweredOrLost world event) :
    (world.step (lockServer hash) event).shared.stray = [] := by
  cases event with
  | disconnect pid => exact stray_endSessions none _
  | crash pid => exact stray_endSessions none _
  | statement pid choice =>
      rcases World.statement_cases (lockServer hash) world pid choice with
        unchanged | ⟨statement, next, reply, shared, -, outcome, moved⟩
      · rw [unchanged]
        exact none
      · rw [moved]
        exact stray_lockOutcome none answered outcome

/-- Where no query fails on a living connection, a lock is held just while a
connected call is between its acquisition and its unlock; a call is refused
just when another call is there; and a call that has ended has no client. -/
theorem heldLocks_iff_beforeUnlock (hash : String → Lock) (keys : Pid → String)
    (events : List (Event Pid (LockChoice Session Result)))
    (answered : EveryStep (World.step (lockServer hash)) AnsweredOrLost
      (lockStart keys : LockWorld Pid Session Lock Result) events) :
    let world := run (World.step (lockServer hash)) (lockStart keys) events
    (∀ client lock, (client, lock) ∈ world.shared.locks.held ↔
      ∃ pid, hash (keys pid) = lock ∧ Connected world pid client ∧ BeforeUnlock world pid) ∧
    (∀ client lock, (world.shared.locks.tryAcquire client lock).1 = false ↔
      ∃ pid other, hash (keys pid) = lock ∧ other ≠ client ∧ Connected world pid other ∧
        BeforeUnlock world pid) ∧
    ∀ pid program, world.programs pid = some program → program.running = false →
      world.shared.clients.itemOf pid = none := by
  intro world
  have holds : LockWorldInvariant hash keys world := lockWorldInvariant_run hash keys events
  have noStray : world.shared.stray = [] :=
    @run_invariant _ _ (World.step (lockServer hash)) AnsweredOrLost
      (fun world => world.shared.stray = []) (fun _ _ => stray_step) _ events rfl answered
  have heldIff : ∀ client lock, (client, lock) ∈ world.shared.locks.held ↔
      ∃ pid, hash (keys pid) = lock ∧ Connected world pid client ∧ BeforeUnlock world pid := by
    intro client lock
    constructor
    · intro held
      apply (holds.held_cases held).resolve_left
      rw [noStray]
      exact List.not_mem_nil
    · rintro ⟨pid, rfl, borrowed, before⟩
      exact holds.holds_of_beforeUnlock borrowed before
  refine ⟨heldIff, ?_, ?_⟩
  · intro client lock
    rw [SessionLocks.tryAcquire_refused_iff]
    constructor
    · intro ⟨other, different, positive⟩
      obtain ⟨pid, isLock, borrowed, before⟩ :=
        (heldIff other lock).mp (SessionLocks.mem_held_iff.mpr positive)
      exact ⟨pid, other, isLock, different, borrowed, before⟩
    · intro ⟨pid, other, isLock, different, borrowed, before⟩
      exact ⟨other, different, SessionLocks.mem_held_iff.mp
        ((heldIff other lock).mpr ⟨pid, isLock, borrowed, before⟩)⟩
  · intro pid program running ended
    obtain ⟨stage, same, facts⟩ := holds.consistent.points pid program running
    cases stage with
    | connecting => exact facts
    | ended result => exact facts
    | trying client | inside client | unlocking client result | releasing client result =>
        rw [← same] at ended
        cases ended

end Invariant

/-- Two calls for one lock, of which the first runs its function and the second
has a client. -/
def twoLockCalls : List (Event Nat (LockChoice Nat Unit)) :=
  [.statement 0 ⟨0, [], .none, none⟩, .statement 0 ⟨0, [], .none, none⟩,
    .statement 1 ⟨1, [], .none, none⟩]

theorem heldLocks_twoCalls :
    let world := run (World.step (lockServer id)) (lockStart fun _ => "report") twoLockCalls
    InsideLock world 0 ∧ (world.shared.locks.tryAcquire 1 "report").1 = false := by
  intro world
  have inside : InsideLock world 0 := ⟨_, rfl⟩
  have answered : EveryStep (World.step (lockServer id)) AnsweredOrLost
      (lockStart (fun _ => "report") : LockWorld Nat Nat String Unit) twoLockCalls :=
    ⟨Or.inl rfl, Or.inl rfl, Or.inl rfl, trivial⟩
  refine ⟨inside, ?_⟩
  apply ((heldLocks_iff_beforeUnlock id (fun _ => "report") twoLockCalls answered).2.1 1
    "report").mpr
  exact ⟨0, 0, rfl, by decide, ⟨rfl, List.not_mem_nil⟩, .fn, _, rfl, rfl⟩

end PlatformArchitecture.Postgres
