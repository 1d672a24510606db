import Mathlib.Data.List.Sort
import Mathlib.Logic.Function.Basic
import PlatformArchitecture.ControlApi.ControlStore

/-!
# The operations of both control stores

`InMemoryControlStore` and `PostgresControlStore` implement one interface.  To
the rows that the requests read, the tables here add what the rest of the
interface reads: the observed state, and the times at which changes and audit
entries were written.
-/

namespace PlatformArchitecture.ControlApi

open PlatformArchitecture.Foundations
open PlatformArchitecture.Postgres

/-! ## Tables -/

/-- The rows of one environment with the observed state, the `updated_at` of the
change under an id and the `created_at` of each audit row. -/
structure StoreTables where
  control : ControlState
  actualState : Json
  changedAt : String → Nat
  auditedAt : List Nat

def emptyTables : StoreTables where
  control := emptyControlState
  actualState := .obj []
  changedAt _ := 0
  auditedAt := []

/-- The columns of the store: which changes the columns `payload` and
`created_at` take, and which entries the audit table takes. -/
structure StoreColumns extends ColumnTypes where
  change : ChangeRequest → Bool
  entry : JsObject → Bool

/-- Columns that take every value as it is. -/
def StoreColumns.verbatim : StoreColumns where
  toColumnTypes := ColumnTypes.verbatim
  change _ := true
  entry _ := true

/-- What the runtime supplies to an operation: the time of each of its
statements, and the order in which rows are read, which decides between rows
that `ORDER BY` does not. -/
structure Moment where
  changed : Nat
  audited : Nat
  changeRows : List ChangeRow → List ChangeRow
  auditRows : List (Json × Nat) → List (Json × Nat)
  changeRows_perm : ∀ rows, (changeRows rows).Perm rows
  auditRows_perm : ∀ rows, (auditRows rows).Perm rows

/-- Rows are read in the order of their insertion. -/
def Moment.inOrder (changed audited : Nat) : Moment where
  changed
  audited
  changeRows := id
  auditRows := id
  changeRows_perm _ := List.Perm.refl _
  auditRows_perm _ := List.Perm.refl _

/-- An entry of the audit history: its properties, and the time that hides the
property `at`. -/
structure StampedEntry where
  fields : JsObject
  time : Nat
  deriving DecidableEq

/-- The properties of an entry that `at` does not hide. -/
def untimed (entry : JsObject) : JsObject :=
  entry.filter fun field => field.1 ≠ "at"

/-! ## Statements -/

inductive StoreStatement where
  | control (statement : ControlStatement)
  | selectActualState
  | upsertActualState (value : Json)
  | selectChanges
  | selectAudit

abbrev StoreStatement.Reply : StoreStatement → Type
  | .control statement => statement.Reply
  | .selectActualState => Option Json
  | .upsertActualState _ => Unit
  | .selectChanges => List ChangeRequest
  | .selectAudit => List StampedEntry

namespace StoreTables

/-- `ORDER BY updated_at DESC LIMIT 500`. -/
def newestChanges (moment : Moment) (tables : StoreTables) : List ChangeRequest :=
  (((moment.changeRows tables.control.changes).insertionSort fun left right =>
    tables.changedAt right.changeId ≤ tables.changedAt left.changeId).take 500).map
      ChangeRow.payload

/-- `ORDER BY created_at DESC LIMIT 1000`. -/
def newestAudit (moment : Moment) (tables : StoreTables) : List StampedEntry :=
  (((moment.auditRows (tables.control.audit.zip tables.auditedAt)).insertionSort
    fun left right => right.2 ≤ left.2).take 1000).map
      fun row => ⟨untimed row.1.entries, row.2⟩

/-- The tables after a statement has left the rows `control`. -/
def stamped (columns : StoreColumns) (moment : Moment) (tables : StoreTables)
    (statement : ControlStatement) (control : ControlState) : StoreTables :=
  match statement with
  | .upsertDesiredState _ =>
      { tables with
        control
        actualState :=
          if tables.control.runtime.isSome then tables.actualState else .obj [] }
  | .upsertChange change =>
      { tables with
        control
        changedAt :=
          Function.update tables.changedAt ((columns.uuid change.id).getD change.id)
            moment.changed }
  | .insertAudit _ =>
      { tables with control, auditedAt := tables.auditedAt ++ [moment.audited] }
  | _ => { tables with control }

end StoreTables

/-- The columns of a change and of an audit entry take the value. -/
def StoreColumns.accepts (columns : StoreColumns) : ControlStatement → Bool
  | .upsertChange change => columns.change change
  | .insertAudit entry => columns.entry entry
  | _ => true

/-- What a statement does to the tables. -/
def executeStore (columns : StoreColumns) (moment : Moment) (statement : StoreStatement)
    (tables : StoreTables) : Except ApiError (statement.Reply × StoreTables) :=
  match statement with
  | .control statement =>
      if columns.accepts statement then
        match executeControl columns.toColumnTypes statement tables.control with
        | .error error => .error error
        | .ok (reply, control) => .ok (reply, tables.stamped columns moment statement control)
      else
        .error .internal
  | .selectActualState =>
      .ok (tables.control.runtime.map fun _ => tables.actualState, tables)
  | .upsertActualState value =>
      match columns.jsonb value with
      | none => .error .internal
      | some actualState =>
          let runtime := tables.control.runtime.getD ⟨1, .obj []⟩
          .ok ((), { tables with
            control := { tables.control with runtime := some runtime }
            actualState })
  | .selectChanges => .ok (tables.newestChanges moment, tables)
  | .selectAudit => .ok (tables.newestAudit moment, tables)

def storeDatabase (columns : StoreColumns) (moment : Moment) :
    Database StoreTables StoreStatement StoreStatement.Reply ApiError where
  execute := executeStore columns moment
  disconnected := .internal

abbrev StoreProgram (Result : Type) :=
  Program StoreStatement StoreStatement.Reply ApiError Result

abbrev awaitStore (statement : StoreStatement) : StoreProgram statement.Reply :=
  Program.call statement

/-- A method that only touches the rows. -/
abbrev onRows {Result : Type} (program : ControlProgram Result) : StoreProgram Result :=
  Program.embed StoreStatement.control program

/-! ## The other methods of `PostgresControlStore` -/

namespace PostgresControlStore

def getActualState : StoreProgram Json := do
  let state ← awaitStore .selectActualState
  return state.getD (.obj [])

def setActualState (value : Json) (actorId : String) : StoreProgram Unit := do
  awaitStore (.upsertActualState value)
  onRows (recordAudit [("type", .str "actual-state.observed"), ("actorId", .str actorId)])

def listChanges : StoreProgram (List ChangeRequest) :=
  awaitStore .selectChanges

def auditHistory : StoreProgram (List StampedEntry) :=
  awaitStore .selectAudit

end PostgresControlStore

/-! ## The interface -/

/-- The operations of `ControlStore`. -/
inductive StoreOperation where
  | getDesiredState
  | getActualState
  | getConfigVersion
  | setDesiredState (value : Json) (actorId : String)
  | setActualState (value : Json) (actorId : String)
  | setPage (page : ControlPage) (data : Json) (actorId : String)
  | getPage (page : ControlPage)
  | saveChange (change : ChangeRequest)
  | getChange (id : String)
  | listChanges
  | auditHistory
  | recordAudit (entry : JsObject)

namespace StoreOperation

abbrev Reply : StoreOperation → Type
  | getDesiredState | getActualState | getPage _ => Json
  | getConfigVersion => Nat
  | getChange _ => Option ChangeRequest
  | listChanges => List ChangeRequest
  | auditHistory => List StampedEntry
  | setDesiredState _ _ | setActualState _ _ | setPage _ _ _ | saveChange _ | recordAudit _ =>
      Unit

/-- The operation as `PostgresControlStore` carries it out. -/
def program : (operation : StoreOperation) → StoreProgram operation.Reply
  | getDesiredState => onRows PostgresControlStore.getDesiredState
  | getActualState => PostgresControlStore.getActualState
  | getConfigVersion => onRows PostgresControlStore.getConfigVersion
  | setDesiredState value actorId => onRows (PostgresControlStore.setDesiredState value actorId)
  | setActualState value actorId => PostgresControlStore.setActualState value actorId
  | setPage page data actorId => onRows (PostgresControlStore.setPage page (some data) actorId)
  | getPage page => onRows (PostgresControlStore.getPage page)
  | saveChange change => onRows (PostgresControlStore.saveChange change)
  | getChange id => onRows (PostgresControlStore.getChange id)
  | listChanges => PostgresControlStore.listChanges
  | auditHistory => PostgresControlStore.auditHistory
  | recordAudit entry => onRows (PostgresControlStore.recordAudit entry)

end StoreOperation

/-! ## `InMemoryControlStore` -/

/-- How `localeCompare` orders texts. -/
structure Collation where
  le : String → String → Bool
  total : ∀ left right, le left right ∨ le right left
  trans : ∀ {first second third}, le first second → le second third → le first third

/-- The order of code points, which is that of times written alike. -/
def Collation.codePoints : Collation where
  le left right := decide (left ≤ right)
  total left right := by simpa using String.le_total left right
  trans first second := by
    simp only [decide_eq_true_eq] at first second ⊢
    exact String.le_trans first second

structure InMemoryControlStore where
  desiredState : Json
  actualState : Json
  changes : List ChangeRequest
  audit : List StampedEntry
  pages : List PageRow
  configVersion : Nat

/-- A replaced value of a `Map` keeps its place. -/
def replaceChange (_stored change : ChangeRequest) : ChangeRequest :=
  change

namespace InMemoryControlStore

def new : InMemoryControlStore where
  desiredState := .obj []
  actualState := .obj []
  changes := []
  audit := []
  pages := ControlPage.all.map fun page => ⟨page, .obj (initialPage page)⟩
  configVersion := 1

def recordAudit (now : Nat) (entry : JsObject) (store : InMemoryControlStore) :
    InMemoryControlStore :=
  { store with audit := store.audit ++ [⟨untimed entry, now⟩] }

def setDesiredState (now : Nat) (value : Json) (actorId : String)
    (store : InMemoryControlStore) : InMemoryControlStore :=
  let configVersion := store.configVersion + 1
  recordAudit now
    [("type", .str "desired-state.updated"), ("actorId", .str actorId),
      ("configVersion", .num (.finite configVersion))]
    { store with desiredState := value, configVersion }

def setActualState (now : Nat) (value : Json) (actorId : String)
    (store : InMemoryControlStore) : InMemoryControlStore :=
  recordAudit now [("type", .str "actual-state.observed"), ("actorId", .str actorId)]
    { store with actualState := value }

def setPage (now : Nat) (page : ControlPage) (data : Json) (actorId : String)
    (store : InMemoryControlStore) : InMemoryControlStore :=
  recordAudit now
    [("type", .str ("control-page." ++ page.text ++ ".updated")), ("actorId", .str actorId)]
    { store with pages := upsertRow PageRow.page replacePage ⟨page, data⟩ store.pages }

def getPage (page : ControlPage) (store : InMemoryControlStore) : Json :=
  ((findRow PageRow.page page store.pages).map PageRow.data).getD (.obj (initialPage page))

def saveChange (now : Nat) (change : ChangeRequest) (store : InMemoryControlStore) :
    InMemoryControlStore :=
  recordAudit now
    [("type", .str "change.saved"), ("changeId", .str change.id),
      ("actorId", .str change.actorId), ("state", .str change.state.text)]
    { store with changes := upsertRow ChangeRequest.id replaceChange change store.changes }

def getChange (id : String) (store : InMemoryControlStore) : Option ChangeRequest :=
  findRow ChangeRequest.id id store.changes

/-- `sort` is stable. -/
def listChanges (collation : Collation) (store : InMemoryControlStore) : List ChangeRequest :=
  store.changes.insertionSort fun left right => collation.le right.createdAt left.createdAt

/-- The operation and what it leaves; nothing happens between its parts. -/
def perform (collation : Collation) (now : Nat) (store : InMemoryControlStore) :
    (operation : StoreOperation) → operation.Reply × InMemoryControlStore
  | .getDesiredState => (store.desiredState, store)
  | .getActualState => (store.actualState, store)
  | .getConfigVersion => (store.configVersion, store)
  | .setDesiredState value actorId => ((), store.setDesiredState now value actorId)
  | .setActualState value actorId => ((), store.setActualState now value actorId)
  | .setPage page data actorId => ((), store.setPage now page data actorId)
  | .getPage page => (store.getPage page, store)
  | .saveChange change => ((), store.saveChange now change)
  | .getChange id => (store.getChange id, store)
  | .listChanges => (store.listChanges collation, store)
  | .auditHistory => (store.audit, store)
  | .recordAudit entry => ((), store.recordAudit now entry)

end InMemoryControlStore

end PlatformArchitecture.ControlApi
