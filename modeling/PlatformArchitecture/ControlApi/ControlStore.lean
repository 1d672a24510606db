import PlatformArchitecture.ControlApi.ChangeMachine
import PlatformArchitecture.Foundations.KeyedRows
import PlatformArchitecture.Foundations.Program
import PlatformArchitecture.Postgres.ColumnTypes

/-!
# The control store

`PostgresControlStore` keeps the desired state, the pages, the changes and the
audit trail of one environment.  Each of its methods is a sequence of
statements; nothing makes two of them one transaction.
-/

namespace PlatformArchitecture.ControlApi

open PlatformArchitecture.Foundations
open PlatformArchitecture.Postgres

inductive ControlPage where
  | overview
  | capabilities
  | features
  | providers
  | environments
  | dependencies
  | infrastructure
  | deployments
  | health
  | observability
  | security
  | secrets
  | costs
  | backupDr
  | drift
  | emergency
  deriving DecidableEq

namespace ControlPage

def all : List ControlPage :=
  [overview, capabilities, features, providers, environments, dependencies,
    infrastructure, deployments, health, observability, security, secrets, costs,
    backupDr, drift, emergency]

def text : ControlPage → String
  | overview => "overview"
  | capabilities => "capabilities"
  | features => "features"
  | providers => "providers"
  | environments => "environments"
  | dependencies => "dependencies"
  | infrastructure => "infrastructure"
  | deployments => "deployments"
  | health => "health"
  | observability => "observability"
  | security => "security"
  | secrets => "secrets"
  | costs => "costs"
  | backupDr => "backup-dr"
  | drift => "drift"
  | emergency => "emergency"

def ofText? (value : String) : Option ControlPage :=
  all.find? fun page => page.text = value

end ControlPage

/-- What a page holds before anything is written to it. -/
def initialPage : ControlPage → JsObject
  | .overview =>
      [("health", .str "UNKNOWN"), ("profile", .str "unknown"), ("drift", .str "UNKNOWN"),
        ("criticalAlerts", .arr []),
        ("traffic", .obj [("currentRps", .null), ("peakRps", .null)]),
        ("latency", .obj [("p50Ms", .null), ("p95Ms", .null), ("p99Ms", .null)]),
        ("errors", .obj [("rate", .null), ("fourXx", .null), ("fiveXx", .null)])]
  | .capabilities | .features | .providers => [("items", .arr [])]
  | .environments =>
      [("items",
        .arr [.str "development", .str "testing", .str "staging", .str "production"])]
  | .dependencies => [("graph", .obj []), ("conflicts", .arr [])]
  | .infrastructure =>
      [("resources", .arr []), ("compute", .obj []), ("database", .obj []),
        ("cache", .obj []), ("queues", .obj [])]
  | .deployments => [("releases", .arr []), ("activeVersion", .null)]
  | .health =>
      [("dependencies", .arr []), ("workers", .arr []), ("queues", .arr []),
        ("dlq", .arr []), ("integrations", .arr [])]
  | .observability =>
      [("metrics", .bool true), ("tracing", .bool true), ("logging", .bool true),
        ("slos", .arr []), ("traffic", .obj []), ("latency", .obj []),
        ("errors", .obj []), ("saturation", .obj [])]
  | .security =>
      [("posture", .str "UNKNOWN"), ("criticalFindings", .arr []), ("findings", .arr []),
        ("waf", .obj []), ("guardDuty", .obj []), ("securityHub", .obj []),
        ("inspector", .obj []), ("authentication", .obj []), ("authorization", .obj []),
        ("tenantIsolation", .obj [])]
  | .secrets =>
      [("items", .arr []),
        ("note", .str "Secret metadata only; plaintext values are never stored or returned by the control plane.")]
  | .costs =>
      [("currency", .str "USD"), ("items", .arr []), ("today", .null), ("forecast", .null)]
  | .backupDr =>
      [("rpo", .null), ("rto", .null), ("backups", .arr []), ("restoreTests", .arr [])]
  | .drift => [("status", .str "UNKNOWN"), ("items", .arr [])]
  | .emergency => [("maintenanceMode", .bool false), ("killSwitches", .obj [])]

/-- A row of `control_change_request_runtime`. -/
structure ChangeRow where
  changeId : String
  payload : ChangeRequest
  deriving DecidableEq

/-- A row of `control_page_runtime`. -/
structure PageRow where
  page : ControlPage
  data : Json
  deriving DecidableEq

/-- The row of `control_runtime_state`. -/
structure RuntimeState where
  configVersion : Nat
  desiredState : Json
  deriving DecidableEq

/-- The rows of one environment. -/
structure ControlState where
  runtime : Option RuntimeState
  pages : List PageRow
  changes : List ChangeRow
  audit : List Json
  deriving DecidableEq

def emptyControlState : ControlState :=
  { runtime := none, pages := [], changes := [], audit := [] }

/-- The statements of the store. -/
inductive ControlStatement where
  | selectRuntime
  | upsertDesiredState (value : Json)
  | selectPage (page : ControlPage)
  | upsertPage (page : ControlPage) (data : Option Json)
  | selectChange (id : String)
  | upsertChange (change : ChangeRequest)
  | insertAudit (entry : JsObject)

abbrev ControlStatement.Reply : ControlStatement → Type
  | .selectRuntime => Option RuntimeState
  | .upsertDesiredState _ => Nat
  | .selectPage _ => Option Json
  | .selectChange _ => Option ChangeRequest
  | _ => Unit

/-- A change as it comes back from a `jsonb` column. -/
def ChangeRequest.reparsed (change : ChangeRequest) : ChangeRequest :=
  { change with
    operation := change.operation.map Json.reparsed
    capability := change.capability.map Json.reparsed
    desired := change.desired.map Json.reparsed
    audit := change.audit.map fun entry =>
      { entry with note := entry.note.map Json.reparsed } }

/-- The upsert replaces the whole payload. -/
def replaceRow (_stored row : ChangeRow) : ChangeRow :=
  row

def replacePage (_stored row : PageRow) : PageRow :=
  row

/-- What a statement does to the rows of the environment. -/
def executeControl (types : ColumnTypes) (statement : ControlStatement)
    (state : ControlState) : Except ApiError (statement.Reply × ControlState) :=
  match statement with
  | .selectRuntime => .ok (state.runtime, state)
  | .upsertDesiredState value =>
      match types.jsonb value with
      | none => .error .internal
      | some desiredState =>
          let configVersion :=
            match state.runtime with
            | none => 2
            | some runtime => runtime.configVersion + 1
          .ok (configVersion, { state with runtime := some ⟨configVersion, desiredState⟩ })
  | .selectPage page =>
      .ok ((findRow PageRow.page page state.pages).map PageRow.data, state)
  | .upsertPage page data =>
      match data.bind types.jsonb with
      | none => .error .internal
      | some stored =>
          .ok ((), { state with
            pages := upsertRow PageRow.page replacePage ⟨page, stored⟩ state.pages })
  | .selectChange id =>
      match types.uuid id with
      | none => .error .internal
      | some changeId =>
          .ok ((findRow ChangeRow.changeId changeId state.changes).map ChangeRow.payload,
            state)
  | .upsertChange change =>
      match types.uuid change.id with
      | none => .error .internal
      | some changeId =>
          .ok ((), { state with
            changes :=
              upsertRow ChangeRow.changeId replaceRow ⟨changeId, change.reparsed⟩
                state.changes })
  | .insertAudit entry =>
      .ok ((), { state with audit := state.audit ++ [(Json.obj entry).reparsed] })

theorem executeControl_selectChange {types : ColumnTypes} {id : String}
    {before after : ControlState} {reply : Option ChangeRequest}
    (executed : executeControl types (.selectChange id) before = .ok (reply, after)) :
    ∃ changeId, types.uuid id = some changeId ∧ after = before ∧
      reply = (findRow ChangeRow.changeId changeId before.changes).map ChangeRow.payload := by
  dsimp only [executeControl] at executed
  split at executed
  · cases executed
  · next changeId isUuid =>
    cases executed
    exact ⟨changeId, isUuid, rfl, rfl⟩

theorem executeControl_upsertChange {types : ColumnTypes} {change : ChangeRequest}
    {before after : ControlState} {reply : Unit}
    (executed : executeControl types (.upsertChange change) before = .ok (reply, after)) :
    ∃ changeId, types.uuid change.id = some changeId ∧
      after = { before with
        changes :=
          upsertRow ChangeRow.changeId replaceRow ⟨changeId, change.reparsed⟩
            before.changes } := by
  dsimp only [executeControl] at executed
  split at executed
  · cases executed
  · next changeId isUuid =>
    cases executed
    exact ⟨changeId, isUuid, rfl⟩

def controlDatabase (types : ColumnTypes) :
    Database ControlState ControlStatement ControlStatement.Reply ApiError where
  execute := executeControl types
  disconnected := .internal

abbrev ControlProgram (Result : Type) :=
  Program ControlStatement ControlStatement.Reply ApiError Result

/-- Issue one statement and await its reply. -/
abbrev awaitControl (statement : ControlStatement) : ControlProgram statement.Reply :=
  Program.call statement

/-! ## The methods of `PostgresControlStore` -/

namespace PostgresControlStore

def getDesiredState : ControlProgram Json := do
  let state ← awaitControl .selectRuntime
  return (state.map RuntimeState.desiredState).getD (.obj [])

def getConfigVersion : ControlProgram Nat := do
  let state ← awaitControl .selectRuntime
  return (state.map RuntimeState.configVersion).getD 1

def recordAudit (entry : JsObject) : ControlProgram Unit :=
  awaitControl (.insertAudit entry)

def setDesiredState (value : Json) (actorId : String) : ControlProgram Unit := do
  let configVersion ← awaitControl (.upsertDesiredState value)
  recordAudit
    [("type", .str "desired-state.updated"), ("actorId", .str actorId),
      ("configVersion", .num (.finite configVersion))]

def getPage (page : ControlPage) : ControlProgram Json := do
  let data ← awaitControl (.selectPage page)
  return data.getD (.obj (initialPage page))

def setPage (page : ControlPage) (data : Option Json) (actorId : String) :
    ControlProgram Unit := do
  awaitControl (.upsertPage page data)
  recordAudit
    [("type", .str ("control-page." ++ page.text ++ ".updated")),
      ("actorId", .str actorId)]

def saveChange (change : ChangeRequest) : ControlProgram Unit := do
  awaitControl (.upsertChange change)
  recordAudit
    [("type", .str "change.saved"), ("changeId", .str change.id),
      ("actorId", .str change.actorId), ("state", .str change.state.text)]

def getChange (id : String) : ControlProgram (Option ChangeRequest) :=
  awaitControl (.selectChange id)

end PostgresControlStore

end PlatformArchitecture.ControlApi
