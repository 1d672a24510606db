import Mathlib.Data.List.Lex
import Mathlib.Data.List.Sort
import PlatformArchitecture.Foundations.Concurrent
import PlatformArchitecture.Foundations.TextEncodings
import PlatformArchitecture.Foundations.UniqueKeys

/-!
# The migrator

`migrate` goes through the files of a directory in order.  It looks each up in
`schema_migrations` outside any transaction, and runs the SQL of one that is
not there and inserts its row in one transaction.

Every run of `migrate` is a process of its own.  An insert waits for an open
transaction that inserted the same version, and any statement or connection can
fail.
-/

namespace PlatformArchitecture.Postgres

open PlatformArchitecture.Foundations

/-- A directory of migrations: no two entries have one name. -/
structure MigrationDirectory where
  entries : List String
  contents : String → String
  nodup : entries.Nodup

def isLineTerminator (c : Char) : Bool :=
  c == '\n' || c == '\r' || c == '\u2028' || c == '\u2029'

/-- `/^\d+.*\.sql$/`: neither the digit nor the ending has a line terminator. -/
def isMigrationName (name : String) : Bool :=
  name.toList.head?.any Char.isDigit && ".sql".toList.isSuffixOf name.toList &&
    !name.toList.any isLineTerminator

/-- `entries.filter(...).sort()`. -/
def migrationFiles (entries : List String) : List String :=
  (entries.filter isMigrationName).insertionSort fun first second =>
    utf16Units first ≤ utf16Units second

example : migrationFiles ["10_b.sql", "readme.sql", "002.sql", "3.sql.txt", "001_a.sql"] =
    ["001_a.sql", "002.sql", "10_b.sql"] := by decide

/-- What `migrate` awaits.  The text that is executed is that of a file, which
is named with it. -/
inductive MigrationStatement where
  | createTable
  | readdir
  | selectVersion (version : String)
  | readFile (file : String)
  | connect
  | begin
  | execute (file sql : String)
  | insertVersion (version : String)
  | commit
  | rollback

/-- The lookup replies with its row count. -/
abbrev MigrationStatement.Reply : MigrationStatement → Type
  | .readdir => List String
  | .selectVersion _ => Nat
  | .readFile _ => String
  | _ => Unit

inductive MigrationError where
  | query
  | file
  deriving DecidableEq

abbrev MigrationProgram :=
  Program MigrationStatement MigrationStatement.Reply MigrationError Unit

/-- Issue one statement and await its reply. -/
abbrev awaitMigration (statement : MigrationStatement) :
    Program MigrationStatement MigrationStatement.Reply MigrationError statement.Reply :=
  Program.call statement

/-- The transaction of one file. -/
def applyMigration (file sql : String) : MigrationProgram :=
  let body : MigrationProgram := do
    awaitMigration .begin
    awaitMigration (.execute file sql)
    awaitMigration (.insertVersion file)
    awaitMigration .commit
  body.orElse fun error => do
    awaitMigration .rollback
    throw error

/-- `for (const file of files)`. -/
def migrateFiles : List String → MigrationProgram
  | [] => return
  | file :: rest => do
      let rowCount ← awaitMigration (.selectVersion file)
      if rowCount ≠ 0 then
        migrateFiles rest
      else
        let sql ← awaitMigration (.readFile file)
        awaitMigration .connect
        applyMigration file sql
        migrateFiles rest

def migrate : MigrationProgram := do
  awaitMigration .createTable
  let entries ← awaitMigration .readdir
  migrateFiles (migrationFiles entries)

/-- `schema_migrations`, once it is there, and the migrations whose SQL has
taken effect. -/
structure MigrationTables where
  created : Bool
  versions : List String
  applied : List (String × String)
  deriving DecidableEq

inductive MigrationEffect where
  | applied (file sql : String)
  | inserted (version : String)
  deriving DecidableEq

def MigrationTables.perform (tables : MigrationTables) :
    MigrationEffect → MigrationTables
  | .applied file sql => { tables with applied := tables.applied ++ [(file, sql)] }
  | .inserted version => { tables with versions := tables.versions ++ [version] }

/-- The primary key. -/
def versionKeys : MigrationEffect → List String
  | .applied _ _ => []
  | .inserted version => [version]

section Server

variable {Pid : Type} [DecidableEq Pid]

abbrev MigrationState (Pid : Type) :=
  TransactionalStore Pid MigrationTables MigrationEffect

/-- `INSERT INTO schema_migrations(version) VALUES($1)`. -/
def judgeInsertVersion (pid : Pid) (version : String) (state : MigrationState Pid)
    (opened : Transaction MigrationEffect) : Verdict Unit MigrationEffect :=
  if state.table.created = false then .reject
  else if version ∈ state.table.versions ++ opened.pending.flatMap versionKeys then .reject
  else if state.anyOther pid (TransactionalStore.writesKey versionKeys version) then .wait
  else .accept () [.inserted version]

/-- A value that is read, unless reading it fails. -/
def delivered {Value : Type} (fault : Fault) (error : MigrationError) (value : Value) :
    Except MigrationError Value :=
  match fault with
  | .none => .ok value
  | _ => .error error

/-- What a statement of one run does. -/
def migrationOutcome (directory : MigrationDirectory) (pid : Pid) (fault : Fault)
    (statement : MigrationStatement) (state : MigrationState Pid) :
    Option (Except MigrationError statement.Reply × MigrationState Pid) :=
  match statement with
  | .createTable =>
      let made := { state with table := { state.table with created := true } }
      match fault with
      | .none => some (.ok (), made)
      | .acknowledgementLost => some (.error .query, made)
      | _ => some (.error .query, state)
  | .readdir => some (delivered fault .file directory.entries, state)
  | .selectVersion version =>
      if state.table.created = true then
        some (delivered fault .query (state.table.versions.count version), state)
      else
        some (.error .query, state)
  | .readFile file => some (delivered fault .file (directory.contents file), state)
  | .connect => some (delivered fault .query (), state)
  | .begin => some (state.begin .query fault pid)
  | .execute file sql =>
      state.statement .query (fun _opened => .accept () [.applied file sql]) fault pid
  | .insertVersion version =>
      state.statement .query (judgeInsertVersion pid version state) fault pid
  | .commit => some (state.commit .query MigrationTables.perform fault pid)
  | .rollback => some (state.rollback .query fault pid)

def migrationServer (directory : MigrationDirectory) :
    Server Pid Fault (MigrationState Pid) MigrationStatement MigrationStatement.Reply
      MigrationError where
  outcome := migrationOutcome directory
  disconnect pid state := state.withTransaction pid none

/-- A database without applied migrations, with or without the table. -/
def unmigrated (created : Bool) : MigrationState Pid :=
  { table := { created, versions := [], applied := [] }, transactions := [] }

end Server

abbrev MigrationWorld (Pid : Type) :=
  World Pid (MigrationState Pid) MigrationStatement MigrationStatement.Reply MigrationError Unit

/-- Every run about to call `migrate` over a database without migrations. -/
def migrationStart {Pid : Type} (created : Bool) : MigrationWorld Pid :=
  World.start (unmigrated created) fun _pid => migrate

end PlatformArchitecture.Postgres
