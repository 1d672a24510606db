import PlatformArchitecture.Foundations.Concurrent
import PlatformArchitecture.Foundations.Json
import PlatformArchitecture.Foundations.Lending
import PlatformArchitecture.Foundations.PooledSessions
import PlatformArchitecture.Security.TenantContext

/-!
# Transactions of a tenant

`PostgresDatabase.tenantTransaction` sets `app.tenant_id` for one transaction,
and the policy of the table `resources` compares it with the column
`tenant_id`.  The connections come from a pool and go back to it, so that the
next call finds whatever setting and whatever transaction the last one left.

A role that owns the table is not held to its policies.
-/

namespace PlatformArchitecture.Postgres

open PlatformArchitecture.Foundations
open PlatformArchitecture.Security

/-! ## Rows, policies and settings -/

/-- A `uuid` as text, which is never empty. -/
structure UuidText where
  text : String
  notEmpty : text ≠ ""
  deriving DecidableEq

/-- A row of `resources`. -/
structure ResourceRow where
  id : String
  tenantId : UuidText
  workspaceId : Option String
  resourceType : String
  payload : Json
  deriving DecidableEq

/-- An inserted, updated or deleted row. -/
structure RowChange where
  before : Option ResourceRow
  after : Option ResourceRow
  deriving DecidableEq

/-- What a statement answers and changes, from the rows it is let to see. -/
abbrev RowStatement (Answer : Type) :=
  List ResourceRow → Answer × List RowChange

/-- The setting `app.tenant_id` of a session, and what `SET LOCAL` has made of
it for the open transaction. -/
structure TenantSetting where
  base : Option String
  transactional : Option String
  deriving DecidableEq

namespace TenantSetting

def fresh : TenantSetting :=
  ⟨none, none⟩

/-- `current_setting('app.tenant_id', true)`. -/
def current (setting : TenantSetting) : Option String :=
  match setting.transactional with
  | some tenantId => some tenantId
  | none => setting.base

/-- At its end a transaction takes the setting back; one that no session level
value stands behind becomes empty. -/
def settle (setting : TenantSetting) : TenantSetting :=
  match setting.transactional with
  | some _ => ⟨some (setting.base.getD ""), none⟩
  | none => setting

end TenantSetting

/-- `tenant_id::text=current_setting('app.tenant_id',true)`, which an owner of
the table is not asked. -/
def passesPolicy (owner : Bool) (setting : TenantSetting) (row : ResourceRow) : Bool :=
  owner || decide (setting.current = some row.tenantId.text)

/-- A row changes only when it is still there. -/
def applyRowChange (table : List ResourceRow) (change : RowChange) : List ResourceRow :=
  match change.before with
  | none => table ++ change.after.toList
  | some row => if table.contains row then table.erase row ++ change.after.toList else table

/-- The rows that a change takes a lock on. -/
def RowChange.ids (change : RowChange) : List String :=
  (change.before.toList ++ change.after.toList).map ResourceRow.id

abbrev ResourceStore (Session : Type) :=
  TransactionalStore Session (List ResourceRow) RowChange

/-- A statement under the policy: the rows that it hides are neither seen nor
reached, a new row that does not pass it is an error, and a row that another
transaction has changed is waited for. -/
def judgeRows {Session Answer : Type} [DecidableEq Session] (owner : Bool)
    (setting : TenantSetting) (statement : RowStatement Answer) (client : Session)
    (store : ResourceStore Session) (opened : Transaction RowChange) :
    Verdict Answer RowChange :=
  let visible := (opened.pending.foldl applyRowChange store.table).filter
    (passesPolicy owner setting)
  let outcome := statement visible
  let changes := outcome.2.filter fun change => change.before.all visible.contains
  if changes.any fun change => !change.after.all (passesPolicy owner setting) then .reject
  else if store.anyOther client fun other =>
      !other.aborted && changes.any fun change => change.ids.any fun id =>
        other.pending.any fun held => held.ids.contains id
    then .wait
  else .accept outcome.1 changes

/-! ## Calls -/

/-- What `PostgresDatabase` awaits. -/
inductive SqlStatement (Session Answer : Type) where
  | connect
  | begin (client : Session)
  | setLocalTimeout (client : Session) (timeout : String)
  | setTenant (client : Session) (tenantId workspaceId : String)
  | rows (client : Session) (statement : RowStatement Answer)
  | commit (client : Session)
  | rollback (client : Session)
  | release (client : Session)

abbrev SqlStatement.Reply {Session Answer : Type} : SqlStatement Session Answer → Type
  | .connect => Session
  | .rows _ _ => Answer
  | _ => Unit

inductive SqlError where
  | query
  | threw (message : String)
  deriving DecidableEq

abbrev SqlProgram (Session Answer Result : Type) :=
  Program (SqlStatement Session Answer) SqlStatement.Reply SqlError Result

abbrev awaitSql {Session Answer : Type} (statement : SqlStatement Session Answer) :
    SqlProgram Session Answer statement.Reply :=
  Program.call statement

/-- The function of a caller, which issues statements on its client. -/
abbrev RowProgram (Answer : Type) :=
  Program (RowStatement Answer) (fun _ => Answer) SqlError Answer

section Calls

variable {Session Answer : Type}

/-- `fn(client)`. -/
def onClient (client : Session) (fn : RowProgram Answer) : SqlProgram Session Answer Answer :=
  @Program.embed (SqlStatement Session Answer) SqlError Answer SqlStatement.Reply _
    (SqlStatement.rows client) fn

/-- `timeout` is the text that `SET LOCAL statement_timeout` is given. -/
def transaction (timeout : String) (fn : Session → SqlProgram Session Answer Answer) :
    SqlProgram Session Answer Answer := do
  let client ← awaitSql .connect
  let body : SqlProgram Session Answer Answer := do
    awaitSql (.begin client)
    awaitSql (.setLocalTimeout client timeout)
    let value ← fn client
    awaitSql (.commit client)
    return value
  let undone : SqlProgram Session Answer Answer := body.orElse fun error => do
    awaitSql (.rollback client)
    throw error
  undone.finallyDo (awaitSql (.release client))

def tenantTransaction (timeout : String) (ctx : TenantContext) (fn : RowProgram Answer) :
    SqlProgram Session Answer Answer :=
  transaction timeout fun client => do
    awaitSql (.setTenant client ctx.tenantId (ctx.workspaceId.getD ""))
    onClient client fn

/-- `this.pool.query(sql)`: a client of the pool for one statement. -/
def databaseQuery (statement : RowStatement Answer) : SqlProgram Session Answer Answer := do
  let client ← awaitSql .connect
  (awaitSql (.rows client statement)).finallyDo (awaitSql (.release client))

/-- What is called of a `PostgresDatabase`. -/
inductive DatabaseCall (Answer : Type) where
  | query (statement : RowStatement Answer)
  | transaction (fn : RowProgram Answer)
  | tenantTransaction (ctx : TenantContext) (fn : RowProgram Answer)

def DatabaseCall.program (timeout : String) :
    DatabaseCall Answer → SqlProgram Session Answer Answer
  | .query statement => databaseQuery statement
  | .transaction fn => Postgres.transaction timeout fun client => onClient client fn
  | .tenantTransaction ctx fn => Postgres.tenantTransaction timeout ctx fn

end Calls

/-! ## The server and the pool -/

structure TenantState (Pid Session : Type) where
  clients : Lending Pid Session
  store : ResourceStore Session
  settings : Session → TenantSetting
  ended : List Session

/-- Committed rows, and nothing lent or open. -/
def freshDatabase {Pid Session : Type} (rows : List ResourceRow) : TenantState Pid Session :=
  ⟨Lending.nothingLent, TransactionalStore.idle rows, fun _ => TenantSetting.fresh, []⟩

/-- The client that the pool lends, and what becomes of a statement. -/
structure SqlChoice (Session : Type) where
  client : Session
  fault : Fault

section Server

variable {Pid Session Answer : Type} [DecidableEq Pid] [DecidableEq Session]

namespace TenantState

def withSetting (state : TenantState Pid Session) (client : Session) (setting : TenantSetting) :
    TenantState Pid Session :=
  { state with settings := Function.update state.settings client setting }

/-- The transaction of a session is over, and its setting with it. -/
def settled (state : TenantState Pid Session) (client : Session)
    (store : ResourceStore Session) : TenantState Pid Session :=
  { state.withSetting client (state.settings client).settle with store }

/-- The connection of a session is gone. -/
def endSession (state : TenantState Pid Session) (client : Session) : TenantState Pid Session :=
  { state.settled client (state.store.withTransaction client none) with
    ended := client :: state.ended }

/-- The connection of the client of a call is lost. -/
def disconnect (pid : Pid) (state : TenantState Pid Session) : TenantState Pid Session :=
  match state.clients.itemOf pid with
  | some client => state.endSession client
  | none => state

/-- The rows that a session is let to see. -/
def rowsSeen (owner : Bool) (state : TenantState Pid Session) (client : Session) :
    List ResourceRow :=
  (state.store.seenBy applyRowChange client).filter (passesPolicy owner (state.settings client))

/-- A statement on a living connection; a connection that is lost takes the
session with it. -/
def onSession {Reply : Type} (state : TenantState Pid Session) (client : Session) (fault : Fault)
    (execute : Option (Except SqlError Reply × TenantState Pid Session)) :
    Option (Except SqlError Reply × TenantState Pid Session) :=
  if state.ended.contains client then some (.error .query, state)
  else if fault = .connectionLost then some (.error .query, state.endSession client)
  else execute

end TenantState

def sqlOutcome (owner : Bool) (pid : Pid) (choice : SqlChoice Session)
    (statement : SqlStatement Session Answer) (state : TenantState Pid Session) :
    Option (Except SqlError statement.Reply × TenantState Pid Session) :=
  match statement with
  | .connect =>
      if choice.fault ≠ .none then some (.error .query, state)
      else if state.ended.contains choice.client then none
      else
        (state.clients.lend pid choice.client).map fun clients =>
          (.ok choice.client, { state with clients })
  | .begin client =>
      let outcome := state.store.begin SqlError.query choice.fault client
      state.onSession client choice.fault (some (outcome.1, { state with store := outcome.2 }))
  | .setLocalTimeout client _ =>
      state.onSession client choice.fault
        ((state.store.statement SqlError.query (fun _ => .accept () []) choice.fault client).map
          fun outcome => (outcome.1, { state with store := outcome.2 }))
  | .setTenant client tenantId _ =>
      state.onSession client choice.fault
        ((state.store.statement SqlError.query (fun _ => .accept () []) choice.fault client).map
          fun outcome =>
            match outcome.1 with
            | .ok () =>
                (.ok (),
                  { state.withSetting client ⟨(state.settings client).base, some tenantId⟩ with
                    store := outcome.2 })
            | .error error => (.error error, { state with store := outcome.2 }))
  | .rows client statement =>
      state.onSession client choice.fault
        ((state.store.pooledStatement SqlError.query applyRowChange
          (judgeRows owner (state.settings client) statement client state.store)
          choice.fault client).map fun outcome => (outcome.1, { state with store := outcome.2 }))
  | .commit client =>
      let outcome := state.store.pooledCommit SqlError.query applyRowChange choice.fault client
      state.onSession client choice.fault (some (outcome.1, state.settled client outcome.2))
  | .rollback client =>
      let outcome := state.store.pooledRollback SqlError.query choice.fault client
      state.onSession client choice.fault (some (outcome.1, state.settled client outcome.2))
  | .release _ => some (.ok (), { state with clients := state.clients.giveBack pid })

def sqlServer (owner : Bool) :
    Server Pid (SqlChoice Session) (TenantState Pid Session) (SqlStatement Session Answer)
      SqlStatement.Reply SqlError where
  outcome := sqlOutcome owner
  disconnect := TenantState.disconnect

end Server

abbrev SqlWorld (Pid Session Answer : Type) :=
  World Pid (TenantState Pid Session) (SqlStatement Session Answer) SqlStatement.Reply
    SqlError Answer

/-- Every call about to ask for a client. -/
def sqlStart {Pid Session Answer : Type} (timeout : String) (rows : List ResourceRow)
    (calls : Pid → DatabaseCall Answer) : SqlWorld Pid Session Answer :=
  World.start (freshDatabase rows) fun pid => (calls pid).program timeout

end PlatformArchitecture.Postgres
