import PlatformArchitecture.Domain.DomainEvent
import PlatformArchitecture.Foundations.Concurrent
import PlatformArchitecture.Foundations.UniqueKeys
import PlatformArchitecture.Postgres.ColumnTypes

/-!
# The inbox

`consumeInboxOnce` looks an event up in `inbox_events`, runs the handler of a
consumer when the event is not there, and inserts a row for it, all in one
transaction.  The primary key of the table is `event_id` alone.

Every call is a process of its own.  Statements read what is committed, an
insert waits for an open transaction that inserted the same key, and any
statement, the handler or the connection can fail.
-/

namespace PlatformArchitecture.Postgres

open PlatformArchitecture.Domain
open PlatformArchitecture.Foundations

/-- A row of `inbox_events`.  `insertedBy` is not a column: it names the call
that wrote the row. -/
structure InboxRow (Pid : Type) where
  eventId : String
  consumerName : String
  tenantId : String
  insertedBy : Pid
  deriving DecidableEq

/-- What `consumeInboxOnce` awaits. -/
inductive InboxStatement where
  | connect
  | begin
  | selectSeen (eventId : String)
  | handler
  | insert (eventId consumerName tenantId : String)
  | commit
  | rollback

/-- The lookup replies with its row count. -/
abbrev InboxStatement.Reply : InboxStatement → Type
  | .selectSeen _ => Nat
  | _ => Unit

inductive InboxError where
  | query
  | handlerThrew
  deriving DecidableEq

abbrev InboxProgram (Result : Type) :=
  Program InboxStatement InboxStatement.Reply InboxError Result

/-- Issue one statement and await its reply. -/
abbrev awaitInbox (statement : InboxStatement) : InboxProgram statement.Reply :=
  Program.call statement

def consumeInboxOnce (consumerName : String) (event : DomainEvent) :
    InboxProgram Bool := do
  awaitInbox .connect
  let body : InboxProgram Bool := do
    awaitInbox .begin
    let seen ← awaitInbox (.selectSeen event.eventId)
    if seen ≠ 0 then
      awaitInbox .commit
      return false
    else
      awaitInbox .handler
      awaitInbox (.insert event.eventId consumerName event.tenantId)
      awaitInbox .commit
      return true
  body.orElse fun error => do
    awaitInbox .rollback
    throw error

/-- The table with its transactions, and the calls whose handler has
completed. -/
structure InboxState (Pid : Type) where
  store : TransactionalStore Pid (List (InboxRow Pid)) (InboxRow Pid)
  handled : List Pid
  deriving DecidableEq

def emptyInbox {Pid : Type} : InboxState Pid :=
  { store := { table := [], transactions := [] }, handled := [] }

section Server

variable {Pid : Type} [DecidableEq Pid]

/-- The rows a transaction sees: what is committed and what it wrote. -/
def visibleRows (store : TransactionalStore Pid (List (InboxRow Pid)) (InboxRow Pid))
    (opened : Transaction (InboxRow Pid)) : List (InboxRow Pid) :=
  store.table ++ opened.pending

/-- `SELECT 1 FROM inbox_events WHERE event_id=$1`. -/
def judgeSelectSeen (types : ColumnTypes) (eventId : String)
    (store : TransactionalStore Pid (List (InboxRow Pid)) (InboxRow Pid))
    (opened : Transaction (InboxRow Pid)) : Verdict Nat (InboxRow Pid) :=
  match types.uuid eventId with
  | none => .reject
  | some id =>
      .accept ((visibleRows store opened).countP fun row => row.eventId = id) []

/-- The primary key. -/
def inboxKeys (row : InboxRow Pid) : List String :=
  [row.eventId]

/-- `INSERT INTO inbox_events(event_id,consumer_name,tenant_id)`. -/
def judgeInsert (types : ColumnTypes) (pid : Pid)
    (eventId consumerName tenantId : String)
    (store : TransactionalStore Pid (List (InboxRow Pid)) (InboxRow Pid))
    (opened : Transaction (InboxRow Pid)) : Verdict Unit (InboxRow Pid) :=
  match types.uuid eventId, types.uuid tenantId with
  | some id, some tenant =>
      if (visibleRows store opened).any fun row => row.eventId = id then .reject
      else if store.anyOther pid (TransactionalStore.writesKey inboxKeys id) then .wait
      else .accept () [⟨id, consumerName, tenant, pid⟩]
  | _, _ => .reject

/-- The reply of a store operation, with its effect on the inbox. -/
def InboxState.withStore {Reply : Type} (state : InboxState Pid)
    (outcome :
      Reply × TransactionalStore Pid (List (InboxRow Pid)) (InboxRow Pid)) :
    Reply × InboxState Pid :=
  (outcome.1, { state with store := outcome.2 })

def insertRow (rows : List (InboxRow Pid)) (row : InboxRow Pid) :
    List (InboxRow Pid) :=
  rows ++ [row]

omit [DecidableEq Pid] in
theorem foldl_insertRow (rows table : List (InboxRow Pid)) :
    rows.foldl insertRow table = table ++ rows := by
  induction rows generalizing table with
  | nil =>
      simp
  | cons row rest inductionHypothesis =>
      simp [insertRow, inductionHypothesis]

/-- What a statement of one call does. -/
def inboxOutcome (types : ColumnTypes) (pid : Pid) (fault : Fault)
    (statement : InboxStatement) (state : InboxState Pid) :
    Option (Except InboxError statement.Reply × InboxState Pid) :=
  match statement with
  | .connect =>
      match fault with
      | .none => some (.ok (), state)
      | _ => some (.error .query, state)
  | .begin => some (state.withStore (state.store.begin .query fault pid))
  | .selectSeen eventId =>
      (state.store.statement .query
        (judgeSelectSeen types eventId state.store) fault pid).map state.withStore
  | .handler =>
      match fault with
      | .none => some (.ok (), { state with handled := pid :: state.handled })
      | _ => some (.error .handlerThrew, state)
  | .insert eventId consumerName tenantId =>
      (state.store.statement .query
        (judgeInsert types pid eventId consumerName tenantId state.store)
        fault pid).map state.withStore
  | .commit => some (state.withStore (state.store.commit .query insertRow fault pid))
  | .rollback => some (state.withStore (state.store.rollback .query fault pid))

def inboxServer (types : ColumnTypes) :
    Server Pid Fault (InboxState Pid) InboxStatement InboxStatement.Reply
      InboxError where
  outcome := inboxOutcome types
  disconnect pid state :=
    { state with store := state.store.withTransaction pid none }

end Server

/-- One delivery of an event to a consumer. -/
structure InboxCall where
  consumerName : String
  event : DomainEvent

abbrev InboxWorld (Pid : Type) :=
  World Pid (InboxState Pid) InboxStatement InboxStatement.Reply InboxError Bool

/-- Every delivery about to call `consumeInboxOnce` over an empty inbox. -/
def inboxStart {Pid : Type} (calls : Pid → InboxCall) : InboxWorld Pid :=
  World.start emptyInbox fun pid =>
    consumeInboxOnce (calls pid).consumerName (calls pid).event

end PlatformArchitecture.Postgres
