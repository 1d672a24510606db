import PlatformArchitecture.Foundations.Concurrent
import PlatformArchitecture.Foundations.Lending
import PlatformArchitecture.Foundations.SessionLocks
import PlatformArchitecture.Foundations.Transactions

/-!
# Advisory locks

`PostgresAdvisoryLock.withLock` takes a client from the pool, tries a
session-level advisory lock on it, runs the function of its caller and gives
the lock and the client back in two `finally` blocks.

The server grants a lock to a session that has it already, so that the lock
alone does not keep two calls apart: it is the pool that never lends one client
to two of them.  A session whose connection is lost holds nothing any more,
whether or not the function it protects is still running.
-/

namespace PlatformArchitecture.Postgres

open PlatformArchitecture.Foundations

/-- What `withLock` awaits. -/
inductive LockStatement (Session Result : Type) where
  | connect
  | tryAdvisoryLock (client : Session) (key : String)
  | fn
  | advisoryUnlock (client : Session) (key : String)
  | release (client : Session)

abbrev LockStatement.Reply {Session Result : Type} : LockStatement Session Result → Type
  | .connect => Session
  | .tryAdvisoryLock _ _ => Bool
  | .fn => Result
  | .advisoryUnlock _ _ => Bool
  | .release _ => Unit

inductive LockError where
  | lockUnavailable
  | query
  | threw
  deriving DecidableEq

abbrev LockProgram (Session Result Value : Type) :=
  Program (LockStatement Session Result) LockStatement.Reply LockError Value

abbrev awaitLock {Session Result : Type} (statement : LockStatement Session Result) :
    LockProgram Session Result statement.Reply :=
  Program.call statement

def withLock (Session Result : Type) (key : String) : LockProgram Session Result Result := do
  let client ← awaitLock .connect
  let unlock : LockProgram Session Result Unit := do
    let _ ← awaitLock (.advisoryUnlock client key)
    return ()
  let body : LockProgram Session Result Result := do
    let acquired ← awaitLock (.tryAdvisoryLock client key)
    if acquired = true then (awaitLock .fn).finallyDo unlock
    else throw .lockUnavailable
  body.finallyDo (awaitLock (.release client))

/-- The pool and the locks of the server.  `stray` is neither: it lists the
locks that were taken by a statement whose caller saw it fail, or that a
statement failed to give up. -/
structure LockState (Pid Session Lock : Type) where
  clients : Lending Pid Session
  locks : SessionLocks Session Lock
  ended : List Session
  stray : List (Session × Lock)

def freshPool {Pid Session Lock : Type} : LockState Pid Session Lock :=
  ⟨Lending.nothingLent, SessionLocks.nothingHeld, [], []⟩

/-- What the environment decides about one statement: the client that the pool
lends and the idle ones it has closed before, what becomes of a query, and what
the function of the caller does. -/
structure LockChoice (Session Result : Type) where
  client : Session
  closed : List Session
  fault : Fault
  outcome : Option Result

section Server

variable {Pid Session Lock Result : Type} [DecidableEq Pid] [DecidableEq Session]
  [DecidableEq Lock]

namespace LockState

/-- The connections of sessions are gone, and with them their locks. -/
def endSessions (state : LockState Pid Session Lock) (sessions : List Session) :
    LockState Pid Session Lock :=
  { state with
    locks := state.locks.endSessions sessions
    ended := sessions ++ state.ended
    stray := state.stray.filter fun entry => !sessions.contains entry.1 }

/-- The pool closes clients that nobody has. -/
def closeIdle (state : LockState Pid Session Lock) (sessions : List Session) :
    LockState Pid Session Lock :=
  state.endSessions (sessions.filter fun session =>
    !(state.clients.loans.any fun loan => decide (loan.2 = session)))

/-- A query of a session; one that fails may have been carried out, may not
have been, or ends the session. -/
def query {Reply : Type} (state : LockState Pid Session Lock) (client : Session) (fault : Fault)
    (carriedOut : Reply × LockState Pid Session Lock)
    (failed unseen : LockState Pid Session Lock) :
    Except LockError Reply × LockState Pid Session Lock :=
  if state.ended.contains client then (.error .query, state)
  else
    match fault with
    | .none => (.ok carriedOut.1, carriedOut.2)
    | .statementError => (.error .query, failed)
    | .acknowledgementLost => (.error .query, unseen)
    | .connectionLost => (.error .query, state.endSessions [client])

/-- `SELECT pg_try_advisory_lock(hashtextextended($1,0))`. -/
def tryAdvisoryLock (state : LockState Pid Session Lock) (lock : Lock) (client : Session)
    (fault : Fault) : Except LockError Bool × LockState Pid Session Lock :=
  let attempt := state.locks.tryAcquire client lock
  state.query client fault (attempt.1, { state with locks := attempt.2 }) state
    { state with
      locks := attempt.2
      stray := if attempt.1 = true then (client, lock) :: state.stray else state.stray }

/-- `SELECT pg_advisory_unlock(hashtextextended($1,0))`. -/
def advisoryUnlock (state : LockState Pid Session Lock) (lock : Lock) (client : Session)
    (fault : Fault) : Except LockError Bool × LockState Pid Session Lock :=
  let attempt := state.locks.unlock client lock
  state.query client fault (attempt.1, { state with locks := attempt.2 })
    { state with stray := (client, lock) :: state.stray } { state with locks := attempt.2 }

/-- `pool.connect()`; without a client to lend it waits. -/
def connect (state : LockState Pid Session Lock) (pid : Pid) (choice : LockChoice Session Result) :
    Option (Except LockError Session × LockState Pid Session Lock) :=
  let state := state.closeIdle choice.closed
  match choice.fault with
  | .none =>
      if state.ended.contains choice.client then none
      else
        (state.clients.lend pid choice.client).map fun clients =>
          (.ok choice.client, { state with clients })
  | _ => some (.error .query, state)

end LockState

/-- What a statement of one call does; `hash` is `hashtextextended(·, 0)`. -/
def lockOutcome (hash : String → Lock) (pid : Pid) (choice : LockChoice Session Result)
    (statement : LockStatement Session Result) (state : LockState Pid Session Lock) :
    Option (Except LockError statement.Reply × LockState Pid Session Lock) :=
  match statement with
  | .connect => state.connect pid choice
  | .tryAdvisoryLock client key => some (state.tryAdvisoryLock (hash key) client choice.fault)
  | .fn =>
      match choice.outcome with
      | some result => some (.ok result, state)
      | none => some (.error .threw, state)
  | .advisoryUnlock client key => some (state.advisoryUnlock (hash key) client choice.fault)
  | .release _ => some (.ok (), { state with clients := state.clients.giveBack pid })

/-- A connection that is lost ends its session; the call goes on. -/
def lockServer (hash : String → Lock) :
    Server Pid (LockChoice Session Result) (LockState Pid Session Lock)
      (LockStatement Session Result) LockStatement.Reply LockError where
  outcome := lockOutcome hash
  disconnect pid state := state.endSessions (state.clients.itemOf pid).toList

end Server

abbrev LockWorld (Pid Session Lock Result : Type) :=
  World Pid (LockState Pid Session Lock) (LockStatement Session Result) LockStatement.Reply
    LockError Result

/-- Every call about to ask for the lock of its key. -/
def lockStart {Pid Session Lock Result : Type} (keys : Pid → String) :
    LockWorld Pid Session Lock Result :=
  World.start freshPool fun pid => withLock Session Result (keys pid)

/-- The function of a call has been started and has not settled. -/
def InsideLock {Pid Session Lock Result : Type} (world : LockWorld Pid Session Lock Result)
    (pid : Pid) : Prop :=
  ∃ next, world.programs pid = some (.perform .fn next)

end PlatformArchitecture.Postgres
