import Mathlib.Data.List.Sort
import PlatformArchitecture.Domain.DomainEvent
import PlatformArchitecture.Foundations.Concurrent
import PlatformArchitecture.Foundations.UniqueKeys
import PlatformArchitecture.Postgres.ColumnTypes

/-!
# The outbox

`appendOutbox` inserts an event into `outbox_events` inside the transaction of
its caller.  `OutboxPublisher.flushOnce` locks a batch of unpublished rows,
hands each to the event bus and marks it published, all in one transaction.

Any number of business transactions and flushes run at once.  Publishing is an
effect outside the database: the bus may accept an event whose acknowledgement
is lost, and a rollback does not take it back.
-/

namespace PlatformArchitecture.Postgres

open PlatformArchitecture.Domain
open PlatformArchitecture.Foundations

/-- A row of `outbox_events`. -/
structure OutboxRow where
  id : String
  eventType : String
  eventVersion : Int
  tenantId : String
  workspaceId : Option String
  correlationId : String
  causationId : Option String
  source : String
  payload : Json
  createdAt : Nat
  publishedAt : Option Nat
  attempts : Nat
  deriving DecidableEq

/-- What the functions of the outbox await. -/
inductive OutboxStatement where
  | connect
  | begin
  | insert (event : DomainEvent)
  | selectUnpublished (batchSize : JsNumber)
  | publish (event : DomainEvent)
  | markPublished (id : String)
  | commit
  | rollback

abbrev OutboxStatement.Reply : OutboxStatement → Type
  | .selectUnpublished _ => List OutboxRow
  | _ => Unit

inductive OutboxError where
  | query
  | publishFailed
  deriving DecidableEq

abbrev OutboxProgram (Result : Type) :=
  Program OutboxStatement OutboxStatement.Reply OutboxError Result

/-- Issue one statement and await its reply. -/
abbrev awaitOutbox (statement : OutboxStatement) : OutboxProgram statement.Reply :=
  Program.call statement

def appendOutbox (event : DomainEvent) : OutboxProgram Unit :=
  awaitOutbox (.insert event)

/-- The event a row is published as; `toISOString` prints its timestamp. -/
def eventOfRow (toISOString : Nat → String) (row : OutboxRow) : DomainEvent :=
  { eventId := row.id
    eventType := row.eventType
    eventVersion := .finite row.eventVersion
    timestamp := toISOString row.createdAt
    tenantId := row.tenantId
    workspaceId := row.workspaceId
    correlationId := row.correlationId
    causationId := row.causationId
    source := row.source
    data := row.payload }

/-- The loop of `flushOnce` over its batch. -/
def publishRows (toISOString : Nat → String) : List OutboxRow → OutboxProgram Unit
  | [] => pure ()
  | row :: rest => do
      awaitOutbox (.publish (eventOfRow toISOString row))
      awaitOutbox (.markPublished row.id)
      publishRows toISOString rest

def flushOnce (toISOString : Nat → String) (batchSize : JsNumber) :
    OutboxProgram Nat := do
  awaitOutbox .connect
  let body : OutboxProgram Nat := do
    awaitOutbox .begin
    let rows ← awaitOutbox (.selectUnpublished batchSize)
    publishRows toISOString rows
    awaitOutbox .commit
    return rows.length
  body.orElse fun error => do
    awaitOutbox .rollback
    throw error

/-- The inserts of a business transaction. -/
def appendAll : List DomainEvent → OutboxProgram Unit
  | [] => pure ()
  | event :: rest => do
      appendOutbox event
      appendAll rest

/-- A transaction of a caller of `appendOutbox`. -/
def businessTransaction (events : List DomainEvent) : OutboxProgram Nat := do
  awaitOutbox .connect
  let body : OutboxProgram Nat := do
    awaitOutbox .begin
    appendAll events
    awaitOutbox .commit
    return events.length
  body.orElse fun error => do
    awaitOutbox .rollback
    throw error

/-- What an open transaction has done: the rows it inserted, the rows it
locked and the rows it marked. -/
inductive OutboxWrite where
  | insert (row : OutboxRow)
  | lock (id : String)
  | mark (id : String) (now : Nat)
  deriving DecidableEq

/-- `SET published_at=now(),attempts=attempts+1`. -/
def OutboxRow.marked (now : Nat) (row : OutboxRow) : OutboxRow :=
  { row with publishedAt := some now, attempts := row.attempts + 1 }

def markRows (id : String) (now : Nat) (rows : List OutboxRow) : List OutboxRow :=
  rows.map fun row => if row.id = id then row.marked now else row

/-- The effect of one write on the table. -/
def writeOutbox (rows : List OutboxRow) : OutboxWrite → List OutboxRow
  | .insert row => rows ++ [row]
  | .lock _ => rows
  | .mark id now => markRows id now rows

/-- The primary keys a write adds. -/
def outboxKeys : OutboxWrite → List String
  | .insert row => [row.id]
  | .lock _ => []
  | .mark _ _ => []

/-- The table with its transactions, the events the bus has accepted, and for
every call of `bus.publish` its process and event. -/
structure OutboxState (Pid : Type) where
  store : TransactionalStore Pid (List OutboxRow) OutboxWrite
  accepted : List DomainEvent
  published : List (Pid × DomainEvent)
  deriving DecidableEq

def emptyOutbox {Pid : Type} : OutboxState Pid :=
  { store := { table := [], transactions := [] }, accepted := [], published := [] }

/-- When a failed transaction lets go of its row locks: at the failure, or
when its block ends. -/
inductive LockRelease where
  | atFailure
  | atEnd
  deriving DecidableEq

/-- What the environment decides about a statement. -/
structure OutboxChoice where
  fault : Fault
  now : Nat

section Server

variable {Pid : Type} [DecidableEq Pid]

/-- A transaction that still has its row locks. -/
def LockRelease.keepsLocks (release : LockRelease) (opened : Transaction OutboxWrite) :
    Bool :=
  match release with
  | .atFailure => !opened.aborted
  | .atEnd => true

def locksRow (release : LockRelease) (id : String) (opened : Transaction OutboxWrite) :
    Bool :=
  release.keepsLocks opened && decide (.lock id ∈ opened.pending)

/-- The rows a transaction sees. -/
def visibleOutbox (store : TransactionalStore Pid (List OutboxRow) OutboxWrite)
    (opened : Transaction OutboxWrite) : List OutboxRow :=
  opened.pending.foldl writeOutbox store.table

/-- The row `appendOutbox` inserts, if the column types accept its values. -/
def insertedRow (types : ColumnTypes) (event : DomainEvent) (now : Nat) :
    Option OutboxRow := do
  let id ← types.uuid event.eventId
  let eventVersion ← types.integer event.eventVersion
  let tenantId ← types.uuid event.tenantId
  let workspaceId ← types.nullableUuid event.workspaceId
  let payload ← types.jsonb event.data
  return {
    id
    eventType := event.eventType
    eventVersion
    tenantId
    workspaceId
    correlationId := event.correlationId
    causationId := event.causationId
    source := event.source
    payload
    createdAt := now
    publishedAt := none
    attempts := 0 }

/-- `INSERT INTO outbox_events(...)`. -/
def judgeAppend (types : ColumnTypes) (pid : Pid) (event : DomainEvent) (now : Nat)
    (store : TransactionalStore Pid (List OutboxRow) OutboxWrite)
    (opened : Transaction OutboxWrite) : Verdict Unit OutboxWrite :=
  match insertedRow types event now with
  | none => .reject
  | some row =>
      if (visibleOutbox store opened).any fun stored => stored.id = row.id then .reject
      else if store.anyOther pid (TransactionalStore.writesKey outboxKeys row.id) then
        .wait
      else .accept () [.insert row]

/-- The unpublished rows a transaction sees and no other has locked, oldest
first. -/
def unlockedBatch (release : LockRelease) (pid : Pid) (limit : Nat)
    (store : TransactionalStore Pid (List OutboxRow) OutboxWrite)
    (opened : Transaction OutboxWrite) : List OutboxRow :=
  let unpublished := (visibleOutbox store opened).filter fun row =>
    row.publishedAt.isNone && !store.anyOther pid (locksRow release row.id)
  (unpublished.mergeSort fun first second => first.createdAt ≤ second.createdAt).take
    limit

/-- `SELECT * FROM outbox_events WHERE published_at IS NULL ORDER BY created_at
LIMIT $1 FOR UPDATE SKIP LOCKED`. -/
def judgeSelectUnpublished (types : ColumnTypes) (release : LockRelease) (pid : Pid)
    (batchSize : JsNumber)
    (store : TransactionalStore Pid (List OutboxRow) OutboxWrite)
    (opened : Transaction OutboxWrite) : Verdict (List OutboxRow) OutboxWrite :=
  match types.integer batchSize with
  | none => .reject
  | some limit =>
      if limit < 0 then .reject
      else
        let rows := unlockedBatch release pid limit.toNat store opened
        .accept rows (rows.map fun row => .lock row.id)

/-- `UPDATE outbox_events SET published_at=now(),attempts=attempts+1 WHERE
id=$1`. -/
def judgeMarkPublished (release : LockRelease) (pid : Pid) (id : String) (now : Nat)
    (store : TransactionalStore Pid (List OutboxRow) OutboxWrite)
    (opened : Transaction OutboxWrite) : Verdict Unit OutboxWrite :=
  if (visibleOutbox store opened).all fun row => row.id ≠ id then .accept () []
  else if store.anyOther pid (locksRow release id) then .wait
  else .accept () [.lock id, .mark id now]

def OutboxState.withStore {Reply : Type} (state : OutboxState Pid)
    (outcome : Reply × TransactionalStore Pid (List OutboxRow) OutboxWrite) :
    Reply × OutboxState Pid :=
  (outcome.1, { state with store := outcome.2 })

/-- `bus.publish(event)`: the bus may accept an event and its answer be lost. -/
def publishToBus (pid : Pid) (fault : Fault) (event : DomainEvent)
    (state : OutboxState Pid) : Except OutboxError Unit × OutboxState Pid :=
  let called := { state with published := (pid, event) :: state.published }
  let accepted := { called with accepted := event :: state.accepted }
  match fault with
  | .none => (.ok (), accepted)
  | .acknowledgementLost => (.error .publishFailed, accepted)
  | _ => (.error .publishFailed, called)

/-- What a statement of one process does. -/
def outboxOutcome (types : ColumnTypes) (release : LockRelease) (pid : Pid)
    (choice : OutboxChoice) (statement : OutboxStatement) (state : OutboxState Pid) :
    Option (Except OutboxError statement.Reply × OutboxState Pid) :=
  match statement with
  | .connect =>
      match choice.fault with
      | .none => some (.ok (), state)
      | _ => some (.error .query, state)
  | .begin => some (state.withStore (state.store.begin .query choice.fault pid))
  | .insert event =>
      (state.store.statement .query
        (judgeAppend types pid event choice.now state.store)
        choice.fault pid).map state.withStore
  | .selectUnpublished batchSize =>
      (state.store.statement .query
        (judgeSelectUnpublished types release pid batchSize state.store)
        choice.fault pid).map state.withStore
  | .publish event => some (publishToBus pid choice.fault event state)
  | .markPublished id =>
      (state.store.statement .query
        (judgeMarkPublished release pid id choice.now state.store)
        choice.fault pid).map state.withStore
  | .commit =>
      some (state.withStore (state.store.commit .query writeOutbox choice.fault pid))
  | .rollback => some (state.withStore (state.store.rollback .query choice.fault pid))

def outboxServer (types : ColumnTypes) (release : LockRelease) :
    Server Pid OutboxChoice (OutboxState Pid) OutboxStatement OutboxStatement.Reply
      OutboxError where
  outcome := outboxOutcome types release
  disconnect pid state :=
    { state with store := state.store.withTransaction pid none }

end Server

/-- What a process is for. -/
inductive OutboxTask where
  | append (events : List DomainEvent)
  | flush (batchSize : JsNumber)

def OutboxTask.program (toISOString : Nat → String) : OutboxTask → OutboxProgram Nat
  | .append events => businessTransaction events
  | .flush batchSize => flushOnce toISOString batchSize

abbrev OutboxWorld (Pid : Type) :=
  World Pid (OutboxState Pid) OutboxStatement OutboxStatement.Reply OutboxError Nat

/-- Every process at the beginning of its task, over an empty outbox. -/
def outboxStart {Pid : Type} (toISOString : Nat → String)
    (tasks : Pid → OutboxTask) : OutboxWorld Pid :=
  World.start emptyOutbox fun pid => (tasks pid).program toISOString

end PlatformArchitecture.Postgres
