import PlatformArchitecture.ControlApi.Operators
import PlatformArchitecture.Foundations.KeyedRows
import PlatformArchitecture.Foundations.Program
import PlatformArchitecture.Postgres.ColumnTypes

/-!
# The Section 19 repository

`PostgresControlPlaneRepository` keeps the changes, the configuration versions
and the audit events of the `/platform` routes.  A change is saved from an
object whose properties may hold anything, so what is stored is decided by the
columns of `platform_change`.
-/

namespace PlatformArchitecture.Section19

open PlatformArchitecture.ControlApi
open PlatformArchitecture.Foundations
open PlatformArchitecture.Postgres

/-! ## Columns -/

/-- The driver writes a bound value as text, a string as it is, and the input
function of the column reads the text; a canonical `uuid` is read as itself. -/
structure ChangeColumns extends ColumnTypes where
  written : Json → String
  text : String → Option String
  timestamp : String → Option String
  written_str : ∀ value, written (.str value) = value
  text_verbatim : ∀ {value stored}, text value = some stored → stored = value
  uuid_canonical : ∀ {value stored}, uuid value = some stored → uuid stored = some stored

namespace ChangeColumns

variable (columns : ChangeColumns)

def textColumn (value : Json) : Option String :=
  columns.text (columns.written value)

def uuidColumn (value : Json) : Option String :=
  columns.uuid (columns.written value)

def timestampColumn (value : Json) : Option String :=
  columns.timestamp (columns.written value)

theorem textColumn_str {value stored : String}
    (accepted : columns.textColumn (.str value) = some stored) : stored = value := by
  unfold textColumn at accepted
  rw [columns.written_str] at accepted
  exact columns.text_verbatim accepted

end ChangeColumns

/-- Columns that take every value as it is. -/
def ChangeColumns.verbatim : ChangeColumns where
  uuid := some
  integer := fun
    | .finite value => if value.den = 1 then some value.num else none
    | .infinite _ => none
  jsonb := some
  written := Json.text
  text := some
  timestamp := some
  written_str _ := rfl
  text_verbatim same := (Option.some.inj same).symm
  uuid_canonical _ := rfl

/-- `x.key ?? null` as a bound value, where SQL `NULL` is `none`. -/
def bound (key : String) (x : JsObject) : Option Json :=
  (x.lookup key).filter (· ≠ .null)

/-- A nullable column. -/
def nullable {Value : Type} (read : Json → Option Value) :
    Option Json → Option (Option Value)
  | none => some none
  | some value => (read value).map some

/-- The properties of an object that are not `undefined`. -/
def defined (fields : List (String × Option Json)) : JsObject :=
  fields.filterMap fun field => field.2.map fun value => (field.1, value)

/-! ## Properties of an object -/

theorem lookup_defined_self {key : String} {value : Option Json}
    {rest : List (String × Option Json)} (fresh : key ∉ rest.map Prod.fst) :
    (defined ((key, value) :: rest)).lookup key = value := by
  unfold defined
  cases value with
  | some value => simp
  | none =>
      simp only [List.filterMap_cons, Option.map_none]
      rw [List.lookup_eq_none_iff]
      intro field member
      obtain ⟨source, inRest, made⟩ := List.mem_filterMap.mp member
      obtain ⟨value, -, rfl⟩ := Option.map_eq_some_iff.mp made
      simp only [bne_iff_ne, ne_eq]
      rintro rfl
      exact fresh (List.mem_map_of_mem inRest)

theorem lookup_defined_other {key other : String} {value : Option Json}
    {rest : List (String × Option Json)} (different : other ≠ key) :
    (defined ((key, value) :: rest)).lookup other = (defined rest).lookup other := by
  unfold defined
  cases value with
  | none => simp
  | some value =>
      have unequal : (other == key) = false := by simpa using different
      simp [List.lookup_cons, unequal]

theorem bound_defined {key : String} {value : Option Json} {x : JsObject}
    (found : x.lookup key = value) (notNull : value ≠ some .null) :
    bound key x = value := by
  unfold bound
  rw [found]
  cases value with
  | none => rfl
  | some value =>
      rw [Option.filter_eq_some_iff]
      refine ⟨rfl, ?_⟩
      simpa using notNull

/-- The property of an object that is given by a table of its properties. -/
theorem lookup_defined {fields : List (String × Option Json)}
    (distinct : (fields.map Prod.fst).Nodup) (key : String) :
    (defined fields).lookup key = (fields.lookup key).join := by
  induction fields with
  | nil => rfl
  | cons field rest inductionHypothesis =>
      obtain ⟨name, value⟩ := field
      obtain ⟨fresh, restDistinct⟩ := List.nodup_cons.mp distinct
      by_cases same : key = name
      · subst same
        rw [lookup_defined_self fresh]
        simp
      · have unequal : (key == name) = false := by simpa using same
        rw [lookup_defined_other same, inductionHypothesis restDistinct]
        simp [List.lookup_cons, unequal]

/-! ## Changes -/

inductive RiskLevel where
  | green
  | blue
  | amber
  | red
  | locked
  deriving DecidableEq

namespace RiskLevel

def text : RiskLevel → String
  | green => "GREEN"
  | blue => "BLUE"
  | amber => "AMBER"
  | red => "RED"
  | locked => "LOCKED"

/-- The check constraint on `risk_level`. -/
def ofText? (value : String) : Option RiskLevel :=
  [green, blue, amber, red, locked].find? fun level => level.text = value

end RiskLevel

/-- A row of `platform_change`. -/
structure PlatformChange where
  changeId : String
  environment : String
  requestedBy : String
  requestedAt : String
  capability : String
  oldState : Json
  desiredState : Json
  riskLevel : RiskLevel
  status : String
  impact : Option Json
  approvedBy : Option String
  startedAt : Option String
  completedAt : Option String
  rollbackChangeId : Option String
  deriving DecidableEq

namespace PlatformChange

/-- The row that binding the properties of an object makes, when every column
accepts its value. -/
def ofParameters (columns : ChangeColumns) (x : JsObject) : Option PlatformChange := do
  let changeId ← (bound "changeId" x).bind columns.uuidColumn
  let environment ← (bound "environment" x).bind columns.textColumn
  let requestedBy ← (bound "requestedBy" x).bind columns.textColumn
  let requestedAt ← (bound "requestedAt" x).bind columns.timestampColumn
  let capability ← (bound "capability" x).bind columns.textColumn
  let oldState ← (bound "oldState" x).bind columns.jsonb
  let desiredState ← (bound "desiredState" x).bind columns.jsonb
  let riskText ← (bound "riskLevel" x).bind columns.textColumn
  let riskLevel ← RiskLevel.ofText? riskText
  let status ← (bound "status" x).bind columns.textColumn
  let impact ← nullable columns.jsonb (bound "impact" x)
  let approvedBy ← nullable columns.textColumn (bound "approvedBy" x)
  let startedAt ← nullable columns.timestampColumn (bound "startedAt" x)
  let completedAt ← nullable columns.timestampColumn (bound "completedAt" x)
  let rollbackChangeId ← nullable columns.uuidColumn (bound "rollbackChangeId" x)
  return { changeId, environment, requestedBy, requestedAt, capability, oldState,
           desiredState, riskLevel, status, impact, approvedBy, startedAt, completedAt,
           rollbackChangeId }

/-- The columns that the proofs follow, with the properties they come from. -/
structure Reads (columns : ChangeColumns) (x : JsObject) (row : PlatformChange) : Prop where
  changeId : (bound "changeId" x).bind columns.uuidColumn = some row.changeId
  environment : (bound "environment" x).bind columns.textColumn = some row.environment
  requestedBy : (bound "requestedBy" x).bind columns.textColumn = some row.requestedBy
  capability : (bound "capability" x).bind columns.textColumn = some row.capability
  status : (bound "status" x).bind columns.textColumn = some row.status
  approvedBy : nullable columns.textColumn (bound "approvedBy" x) = some row.approvedBy

theorem reads_of_ofParameters {columns : ChangeColumns} {x : JsObject}
    {row : PlatformChange} (accepted : ofParameters columns x = some row) :
    row.Reads columns x := by
  unfold ofParameters at accepted
  obtain ⟨changeId, isChangeId, accepted⟩ := Option.bind_eq_some_iff.mp accepted
  obtain ⟨environment, isEnvironment, accepted⟩ := Option.bind_eq_some_iff.mp accepted
  obtain ⟨requestedBy, isRequestedBy, accepted⟩ := Option.bind_eq_some_iff.mp accepted
  obtain ⟨_, -, accepted⟩ := Option.bind_eq_some_iff.mp accepted
  obtain ⟨capability, isCapability, accepted⟩ := Option.bind_eq_some_iff.mp accepted
  obtain ⟨_, -, accepted⟩ := Option.bind_eq_some_iff.mp accepted
  obtain ⟨_, -, accepted⟩ := Option.bind_eq_some_iff.mp accepted
  obtain ⟨_, -, accepted⟩ := Option.bind_eq_some_iff.mp accepted
  obtain ⟨_, -, accepted⟩ := Option.bind_eq_some_iff.mp accepted
  obtain ⟨status, isStatus, accepted⟩ := Option.bind_eq_some_iff.mp accepted
  obtain ⟨_, -, accepted⟩ := Option.bind_eq_some_iff.mp accepted
  obtain ⟨approvedBy, isApprovedBy, accepted⟩ := Option.bind_eq_some_iff.mp accepted
  obtain ⟨_, -, accepted⟩ := Option.bind_eq_some_iff.mp accepted
  obtain ⟨_, -, accepted⟩ := Option.bind_eq_some_iff.mp accepted
  obtain ⟨_, -, accepted⟩ := Option.bind_eq_some_iff.mp accepted
  cases accepted
  exact
    { changeId := isChangeId
      environment := isEnvironment
      requestedBy := isRequestedBy
      capability := isCapability
      status := isStatus
      approvedBy := isApprovedBy }

/-- The other columns. -/
structure ReadsRest (columns : ChangeColumns) (x : JsObject) (row : PlatformChange) :
    Prop where
  requestedAt : (bound "requestedAt" x).bind columns.timestampColumn = some row.requestedAt
  oldState : (bound "oldState" x).bind columns.jsonb = some row.oldState
  desiredState : (bound "desiredState" x).bind columns.jsonb = some row.desiredState
  riskLevel : ((bound "riskLevel" x).bind columns.textColumn).bind RiskLevel.ofText? =
    some row.riskLevel
  impact : nullable columns.jsonb (bound "impact" x) = some row.impact
  startedAt : nullable columns.timestampColumn (bound "startedAt" x) = some row.startedAt
  completedAt :
    nullable columns.timestampColumn (bound "completedAt" x) = some row.completedAt
  rollbackChangeId :
    nullable columns.uuidColumn (bound "rollbackChangeId" x) = some row.rollbackChangeId

theorem readsRest_of_ofParameters {columns : ChangeColumns} {x : JsObject}
    {row : PlatformChange} (accepted : ofParameters columns x = some row) :
    row.ReadsRest columns x := by
  unfold ofParameters at accepted
  obtain ⟨_, -, accepted⟩ := Option.bind_eq_some_iff.mp accepted
  obtain ⟨_, -, accepted⟩ := Option.bind_eq_some_iff.mp accepted
  obtain ⟨_, -, accepted⟩ := Option.bind_eq_some_iff.mp accepted
  obtain ⟨requestedAt, isRequestedAt, accepted⟩ := Option.bind_eq_some_iff.mp accepted
  obtain ⟨_, -, accepted⟩ := Option.bind_eq_some_iff.mp accepted
  obtain ⟨oldState, isOldState, accepted⟩ := Option.bind_eq_some_iff.mp accepted
  obtain ⟨desiredState, isDesiredState, accepted⟩ := Option.bind_eq_some_iff.mp accepted
  obtain ⟨riskText, isRiskText, accepted⟩ := Option.bind_eq_some_iff.mp accepted
  obtain ⟨riskLevel, isRiskLevel, accepted⟩ := Option.bind_eq_some_iff.mp accepted
  obtain ⟨_, -, accepted⟩ := Option.bind_eq_some_iff.mp accepted
  obtain ⟨impact, isImpact, accepted⟩ := Option.bind_eq_some_iff.mp accepted
  obtain ⟨_, -, accepted⟩ := Option.bind_eq_some_iff.mp accepted
  obtain ⟨startedAt, isStartedAt, accepted⟩ := Option.bind_eq_some_iff.mp accepted
  obtain ⟨completedAt, isCompletedAt, accepted⟩ := Option.bind_eq_some_iff.mp accepted
  obtain ⟨rollbackChangeId, isRollback, accepted⟩ := Option.bind_eq_some_iff.mp accepted
  cases accepted
  exact
    { requestedAt := isRequestedAt
      oldState := isOldState
      desiredState := isDesiredState
      riskLevel := Option.bind_eq_some_iff.mpr ⟨riskText, isRiskText, isRiskLevel⟩
      impact := isImpact
      startedAt := isStartedAt
      completedAt := isCompletedAt
      rollbackChangeId := isRollback }

/-- The row that stays when a change is saved again. -/
def updatedTo (stored saved : PlatformChange) : PlatformChange :=
  { stored with
    desiredState := saved.desiredState
    status := saved.status
    impact := saved.impact
    approvedBy := saved.approvedBy
    startedAt := saved.startedAt
    completedAt := saved.completedAt
    rollbackChangeId := saved.rollbackChangeId }

/-- The foreign key of `rollback_change_id`. -/
def RollbackExists (changes : List PlatformChange) (row : PlatformChange) : Prop :=
  ∀ id ∈ row.rollbackChangeId,
    id = row.changeId ∨ ∃ stored ∈ changes, stored.changeId = id

instance (changes : List PlatformChange) (row : PlatformChange) :
    Decidable (RollbackExists changes row) :=
  inferInstanceAs (Decidable (∀ id ∈ row.rollbackChangeId, _))

/-- `jsonb` columns that hold `null` are read as absent. -/
def ch (r : PlatformChange) : PlatformChange :=
  { r with
    oldState := if r.oldState = .null then .obj [] else r.oldState
    desiredState := if r.desiredState = .null then .obj [] else r.desiredState
    impact := r.impact.filter (· ≠ .null) }

def toObject (change : PlatformChange) : JsObject :=
  defined
    [("changeId", some (.str change.changeId)),
      ("environment", some (.str change.environment)),
      ("requestedBy", some (.str change.requestedBy)),
      ("requestedAt", some (.str change.requestedAt)),
      ("capability", some (.str change.capability)),
      ("oldState", some change.oldState),
      ("desiredState", some change.desiredState),
      ("riskLevel", some (.str change.riskLevel.text)),
      ("status", some (.str change.status)),
      ("impact", change.impact),
      ("approvedBy", change.approvedBy.map .str),
      ("startedAt", change.startedAt.map .str),
      ("completedAt", change.completedAt.map .str),
      ("rollbackChangeId", change.rollbackChangeId.map .str)]

end PlatformChange

/-! ## Statements -/

/-- What the routes look at of a row of `configuration_version`. -/
structure ConfigurationVersion where
  version : Int
  environment : String
  active : Bool
  deriving DecidableEq

/-- A row of `audit_event`. -/
structure AuditEvent where
  actor : String
  action : String
  resource : String
  oldValue : Option Json
  newValue : Option Json
  environment : String
  correlationId : String
  timestamp : String
  result : String
  deriving DecidableEq

def AuditEvent.ofParameters (columns : ChangeColumns) (x : JsObject) : Option AuditEvent := do
  let actor ← (bound "actor" x).bind columns.textColumn
  let action ← (bound "action" x).bind columns.textColumn
  let resource ← (bound "resource" x).bind columns.textColumn
  let oldValue ← nullable columns.jsonb (bound "oldValue" x)
  let newValue ← nullable columns.jsonb (bound "newValue" x)
  let environment ← (bound "environment" x).bind columns.textColumn
  let correlationId ← (bound "correlationId" x).bind columns.textColumn
  let timestamp ← (bound "timestamp" x).bind columns.timestampColumn
  let result ← (bound "result" x).bind columns.textColumn
  return { actor, action, resource, oldValue, newValue, environment, correlationId,
           timestamp, result }

structure PlatformState where
  changes : List PlatformChange
  configs : List ConfigurationVersion
  audit : List AuditEvent
  deriving DecidableEq

def emptyPlatformState : PlatformState :=
  { changes := [], configs := [], audit := [] }

/-- A store without changes. -/
def platformStart (configs : List ConfigurationVersion) : PlatformState :=
  { emptyPlatformState with configs }

/-- The stored change under an id. -/
def PlatformState.change (state : PlatformState) (changeId : String) :
    Option PlatformChange :=
  findRow PlatformChange.changeId changeId state.changes

/-- The row that saving an object inserts, when the columns and the constraints
accept it. -/
def PlatformState.insertable (columns : ChangeColumns) (state : PlatformState)
    (x : JsObject) : Option PlatformChange :=
  (PlatformChange.ofParameters columns x).filter fun row =>
    PlatformChange.RollbackExists state.changes row

/-- The statements of the repository; the four of `activateConfigVersion` are
one transaction. -/
inductive PlatformStatement where
  | selectChange (id : String)
  | upsertChange (x : JsObject)
  | activateConfigVersion (environment : String) (version : Option JsNumber)
  | insertAudit (event : JsObject)

abbrev PlatformStatement.Reply : PlatformStatement → Type
  | .selectChange _ => Option PlatformChange
  | _ => Unit

def executePlatform (columns : ChangeColumns) (statement : PlatformStatement)
    (state : PlatformState) : Except ApiError (statement.Reply × PlatformState) :=
  match statement with
  | .selectChange id =>
      match columns.uuid id with
      | none => .error .internal
      | some changeId => .ok (state.change changeId, state)
  | .upsertChange x =>
      match state.insertable columns x with
      | none => .error .internal
      | some row =>
          .ok ((), { state with
            changes :=
              upsertRow PlatformChange.changeId PlatformChange.updatedTo row state.changes })
  | .activateConfigVersion environment version =>
      match version.bind columns.integer with
      | none => .error .internal
      | some version =>
          if ∃ config ∈ state.configs,
              config.environment = environment ∧ config.version = version then
            .ok ((), { state with
              configs := state.configs.map fun config =>
                if config.environment = environment then
                  { config with active := decide (config.version = version) }
                else
                  config })
          else
            .error
              ⟨404, "CONFIG_VERSION_NOT_FOUND", "Configuration version not found"⟩
  | .insertAudit x =>
      match AuditEvent.ofParameters columns x with
      | none => .error .internal
      | some event => .ok ((), { state with audit := state.audit ++ [event] })

def platformDatabase (columns : ChangeColumns) :
    Database PlatformState PlatformStatement PlatformStatement.Reply ApiError where
  execute := executePlatform columns
  disconnected := .internal

section Statements

variable {columns : ChangeColumns} {before after : PlatformState}

theorem executePlatform_selectChange {id : String} {reply : Option PlatformChange}
    (executed : executePlatform columns (.selectChange id) before = .ok (reply, after)) :
    ∃ changeId, columns.uuid id = some changeId ∧ after = before ∧
      reply = before.change changeId := by
  dsimp only [executePlatform] at executed
  split at executed
  · cases executed
  · next changeId isUuid =>
    cases executed
    exact ⟨changeId, isUuid, rfl, rfl⟩

theorem executePlatform_upsertChange {x : JsObject} {reply : Unit}
    (executed : executePlatform columns (.upsertChange x) before = .ok (reply, after)) :
    ∃ row, before.insertable columns x = some row ∧
      after = { before with
        changes :=
          upsertRow PlatformChange.changeId PlatformChange.updatedTo row before.changes } := by
  dsimp only [executePlatform] at executed
  split at executed
  · cases executed
  · next row accepted =>
    cases executed
    exact ⟨row, accepted, rfl⟩

theorem executePlatform_insertAudit {event : JsObject} {reply : Unit}
    (executed : executePlatform columns (.insertAudit event) before = .ok (reply, after)) :
    after.changes = before.changes := by
  dsimp only [executePlatform] at executed
  split at executed
  · cases executed
  · cases executed
    rfl

theorem executePlatform_activateConfigVersion {environment : String}
    {version : Option JsNumber} {reply : Unit}
    (executed : executePlatform columns (.activateConfigVersion environment version) before =
      .ok (reply, after)) :
    after.changes = before.changes ∧
      ∃ number config, version.bind columns.integer = some number ∧
        config ∈ before.configs ∧ config.environment = environment ∧
        config.version = number := by
  dsimp only [executePlatform] at executed
  split at executed
  · cases executed
  · next number isNumber =>
    split at executed
    · next known =>
      obtain ⟨config, member, ofEnvironment, sameVersion⟩ := known
      cases executed
      exact ⟨rfl, number, config, isNumber, member, ofEnvironment, sameVersion⟩
    · cases executed

end Statements

abbrev PlatformProgram (Result : Type) :=
  Program PlatformStatement PlatformStatement.Reply ApiError Result

abbrev awaitPlatform (statement : PlatformStatement) : PlatformProgram statement.Reply :=
  Program.call statement

namespace PostgresControlPlaneRepository

def getChange (id : String) : PlatformProgram (Option PlatformChange) := do
  let r ← awaitPlatform (.selectChange id)
  return r.map PlatformChange.ch

def saveChange (x : JsObject) : PlatformProgram Unit :=
  awaitPlatform (.upsertChange x)

def activateConfigVersion (environment : String) (version : Option JsNumber) :
    PlatformProgram Unit :=
  awaitPlatform (.activateConfigVersion environment version)

def appendAudit (x : JsObject) : PlatformProgram Unit :=
  awaitPlatform (.insertAudit x)

end PostgresControlPlaneRepository

end PlatformArchitecture.Section19
