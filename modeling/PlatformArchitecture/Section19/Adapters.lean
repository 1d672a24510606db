import PlatformArchitecture.Foundations.KeyedTables
import PlatformArchitecture.Section19.Repository

/-!
# The two adapters of the control-plane repository

`ControlPlaneRepository` has an adapter that keeps everything in memory and one
that keeps it in the tables of migration 019.  A change arrives as an object
that may hold anything; the other records have the properties of their type.
-/

namespace PlatformArchitecture.Section19.Adapters

open PlatformArchitecture.ControlApi
open PlatformArchitecture.Foundations

/-- A `number`; `NaN` is `none`. -/
abbrev Numeric :=
  Option JsNumber

/-- `===` between numbers: `NaN` is not even itself. -/
def strictEquals (left right : Numeric) : Bool :=
  left.isSome && decide (left = right)

theorem strictEquals_iff {left right : Numeric} :
    strictEquals left right = true ↔ left = right ∧ left ≠ none := by
  cases left with
  | none => simp [strictEquals]
  | some value => simp [strictEquals]

/-! ## Records -/

inductive Criticality where
  | core
  | required
  | optional
  | operational
  deriving DecidableEq

/-- The version is a `number` in an answer and a `bigint` in a row. -/
structure PlatformCapability (Version : Type) where
  capabilityId : String
  name : String
  type : String
  criticality : Criticality
  enabled : Bool
  desiredState : Json
  actualState : Json
  provider : Option String
  fallbackProvider : Option String
  health : String
  environment : String
  version : Version
  deriving DecidableEq

structure CapabilityDependency where
  capabilityId : String
  dependsOn : String
  dependencyType : String
  required : Bool
  fallbackCapability : Option String
  deriving DecidableEq

structure ConfigurationVersion (Version : Type) where
  version : Version
  environment : String
  configuration : Json
  createdBy : String
  createdAt : String
  active : Bool
  deriving DecidableEq

structure ProviderHealth (Latency : Type) where
  provider : String
  environment : String
  state : String
  lastCheck : String
  latency : Option Latency
  details : Json
  deriving DecidableEq

/-! ## Operations -/

inductive RepositoryOperation where
  | listCapabilities (environment : String)
  | getCapability (environment id : String)
  | listDependencies (environment : String)
  | listConfigVersions (environment : String)
  | getChange (id : String)
  | saveChange (change : JsObject)
  | saveConfigVersion (version : ConfigurationVersion Numeric)
  | activateConfigVersion (environment : String) (version : Numeric)
  | providerHealth (environment : String)
  | appendAudit (event : JsObject)

abbrev RepositoryOperation.Reply : RepositoryOperation → Type
  | .listCapabilities _ => List (PlatformCapability Numeric)
  | .getCapability _ _ => Option (PlatformCapability Numeric)
  | .listDependencies _ => List CapabilityDependency
  | .listConfigVersions _ => List (ConfigurationVersion Numeric)
  | .getChange _ => Option JsObject
  | .providerHealth _ => List (ProviderHealth Numeric)
  | _ => Unit

def configVersionNotFound : ApiError :=
  ⟨404, "CONFIG_VERSION_NOT_FOUND", "Configuration version not found"⟩

/-! ## In memory -/

structure InMemoryControlPlaneRepository where
  capabilities : List (PlatformCapability Numeric)
  dependencies : List CapabilityDependency
  changes : List JsObject
  configs : List (ConfigurationVersion Numeric)
  health : List (ProviderHealth Numeric)
  audit : List JsObject
  deriving DecidableEq

/-- The key of a change in the map of changes. -/
def changeKey (change : JsObject) : Option Json :=
  change.lookup "changeId"

namespace InMemoryControlPlaneRepository

variable (repository : InMemoryControlPlaneRepository)

def listCapabilities (environment : String) : List (PlatformCapability Numeric) :=
  repository.capabilities.filter fun x => x.environment = environment

def getCapability (environment id : String) : Option (PlatformCapability Numeric) :=
  repository.capabilities.find? fun x =>
    decide (x.environment = environment) && decide (x.capabilityId = id)

/-- The environment is not looked at. -/
def listDependencies (_environment : String) : List CapabilityDependency :=
  repository.dependencies

def listConfigVersions (environment : String) : List (ConfigurationVersion Numeric) :=
  repository.configs.filter fun x => x.environment = environment

def getChange (id : String) : Option JsObject :=
  findRow changeKey (some (.str id)) repository.changes

def saveChange (change : JsObject) : InMemoryControlPlaneRepository :=
  { repository with
    changes := upsertRow changeKey (fun _ saved => saved) change repository.changes }

def saveConfigVersion (version : ConfigurationVersion Numeric) :
    InMemoryControlPlaneRepository :=
  let others := repository.configs.filter fun x =>
    !(decide (x.environment = version.environment) &&
      strictEquals x.version version.version)
  { repository with configs := others ++ [version] }

/-- A configuration of the environment with the version. -/
def isVersion (environment : String) (version : Numeric)
    (x : ConfigurationVersion Numeric) : Bool :=
  decide (x.environment = environment) && strictEquals x.version version

def withActive (environment : String) (version : Numeric)
    (x : ConfigurationVersion Numeric) : ConfigurationVersion Numeric :=
  if x.environment ≠ environment then x
  else { x with active := strictEquals x.version version }

theorem withActive_of_environment {environment : String} {version : Numeric}
    {x : ConfigurationVersion Numeric} (ofEnvironment : x.environment = environment) :
    withActive environment version x = { x with active := strictEquals x.version version } :=
  if_neg (not_not.mpr ofEnvironment)

theorem withActive_elsewhere {environment : String} {version : Numeric}
    {x : ConfigurationVersion Numeric} (elsewhere : x.environment ≠ environment) :
    withActive environment version x = x :=
  if_pos elsewhere

/-- The flags are replaced before it is known whether the version exists. -/
def activateConfigVersion (environment : String) (version : Numeric) :
    Except ApiError Unit × InMemoryControlPlaneRepository :=
  let found := repository.configs.any (isVersion environment version)
  let updated :=
    { repository with configs := repository.configs.map (withActive environment version) }
  (if found then .ok () else .error configVersionNotFound, updated)

def providerHealth (environment : String) : List (ProviderHealth Numeric) :=
  repository.health.filter fun x => x.environment = environment

def appendAudit (event : JsObject) : InMemoryControlPlaneRepository :=
  { repository with audit := repository.audit ++ [event] }

def perform : (operation : RepositoryOperation) →
    Except ApiError operation.Reply × InMemoryControlPlaneRepository
  | .listCapabilities environment => (.ok (repository.listCapabilities environment), repository)
  | .getCapability environment id => (.ok (repository.getCapability environment id), repository)
  | .listDependencies environment => (.ok (repository.listDependencies environment), repository)
  | .listConfigVersions environment =>
      (.ok (repository.listConfigVersions environment), repository)
  | .getChange id => (.ok (repository.getChange id), repository)
  | .saveChange change => (.ok (), repository.saveChange change)
  | .saveConfigVersion version => (.ok (), repository.saveConfigVersion version)
  | .activateConfigVersion environment version =>
      repository.activateConfigVersion environment version
  | .providerHealth environment => (.ok (repository.providerHealth environment), repository)
  | .appendAudit event => (.ok (), repository.appendAudit event)

end InMemoryControlPlaneRepository

/-! ## In PostgreSQL -/

/-- The input functions of the columns, and `Number` of a `bigint`: a number
that was bound is read back, but two large values may be read as one number. -/
structure PostgresColumns extends ChangeColumns where
  number : Int → JsNumber
  text_plain : ∀ value, Char.ofNat 0 ∉ value.toList → text value = some value
  integer_safe : ∀ value : Int, value.natAbs ≤ 9007199254740991 →
    integer (.finite value) = some value
  number_integer : ∀ {value stored}, integer value = some stored → number stored = value

/-- Columns that take every value as it is. -/
def PostgresColumns.verbatim : PostgresColumns where
  toChangeColumns := ChangeColumns.verbatim
  number value := .finite value
  text_plain _ _ := rfl
  integer_safe value _ := by simp [ChangeColumns.verbatim]
  number_integer := by
    intro value stored accepted
    cases value with
    | infinite negative => cases accepted
    | finite value =>
        simp only [ChangeColumns.verbatim, Option.ite_none_right_eq_some,
          Option.some.injEq] at accepted
        obtain ⟨whole, rfl⟩ := accepted
        exact congrArg JsNumber.finite (Rat.den_eq_one_iff value |>.mp whole)

/-- The index `ux_configuration_active`. -/
def OneActive (rows : List (ConfigurationVersion Int)) : Prop :=
  rows.Pairwise fun first second =>
    first.active = true → second.active = true → first.environment ≠ second.environment

instance (rows : List (ConfigurationVersion Int)) : Decidable (OneActive rows) :=
  inferInstanceAs (Decidable (rows.Pairwise _))

/-- The rows of `configuration_version` with its primary key and its index. -/
structure ConfigurationTable extends KeyedTable (@ConfigurationVersion.version Int) where
  oneActive : OneActive rows

/-- `value ?? {}`. -/
def orEmpty : Json → Json
  | .null => .obj []
  | value => value

/-- The value of a parameter, when its column accepts it. -/
def accepted {Value : Type} (value : Option Value) : Except ApiError Value :=
  match value with
  | none => .error .internal
  | some value => .ok value

theorem accepted_eq_ok {Value : Type} {value : Option Value} {result : Value} :
    accepted value = .ok result ↔ value = some result := by
  cases value with
  | none => simp [accepted]
  | some value => simp [accepted]

/-- What an `UPDATE` of the flags leaves when one version of an environment is
to be the active one. -/
def activeRow (environment : String) (version : Int) (row : ConfigurationVersion Int) :
    ConfigurationVersion Int :=
  if row.environment = environment then
    { row with active := decide (row.version = version) }
  else
    row

@[simp]
theorem activeRow_version (environment : String) (version : Int)
    (row : ConfigurationVersion Int) :
    (activeRow environment version row).version = row.version := by
  unfold activeRow
  split
  · rfl
  · rfl

@[simp]
theorem activeRow_environment (environment : String) (version : Int)
    (row : ConfigurationVersion Int) :
    (activeRow environment version row).environment = row.environment := by
  unfold activeRow
  split
  · rfl
  · rfl

/-- An active row of the environment has the version. -/
theorem version_of_activeRow {environment : String} {version : Int}
    {row : ConfigurationVersion Int} (ofEnvironment : row.environment = environment)
    (active : (activeRow environment version row).active = true) : row.version = version := by
  rw [activeRow, if_pos ofEnvironment] at active
  exact of_decide_eq_true active

/-- One version of an environment becomes the active one, and no other
environment has two. -/
def ConfigurationTable.activate (table : ConfigurationTable) (environment : String)
    (version : Int) : ConfigurationTable where
  toKeyedTable := table.toKeyedTable.update (activeRow environment version)
    (activeRow_version environment version)
  oneActive := by
    have distinct := List.pairwise_map.mp table.distinct
    have flags := table.oneActive.and distinct
    refine List.pairwise_map.mpr (flags.imp ?_)
    rintro first second ⟨apart, different⟩ firstActive secondActive same
    simp only [activeRow_environment] at same
    by_cases ofEnvironment : first.environment = environment
    · have firstVersion := version_of_activeRow ofEnvironment firstActive
      have secondVersion := version_of_activeRow (same ▸ ofEnvironment) secondActive
      exact different (firstVersion.trans secondVersion.symm)
    · rw [activeRow, if_neg ofEnvironment] at firstActive
      rw [activeRow, if_neg (same ▸ ofEnvironment)] at secondActive
      exact apart firstActive secondActive same

/-- The tables of migration 019 that the repository uses. -/
structure ControlPlaneDatabase where
  capabilities : KeyedTable (@PlatformCapability.capabilityId Int)
  dependencies : List CapabilityDependency
  changes : KeyedTable PlatformChange.changeId
  configs : ConfigurationTable
  health : List (ProviderHealth Int)
  audit : List AuditEvent

namespace PostgresControlPlaneRepository

variable (columns : PostgresColumns) (database : ControlPlaneDatabase)

/-! The records that rows are read as. -/

def c (r : PlatformCapability Int) : PlatformCapability Numeric where
  capabilityId := r.capabilityId
  name := r.name
  type := r.type
  criticality := r.criticality
  enabled := r.enabled
  desiredState := orEmpty r.desiredState
  actualState := orEmpty r.actualState
  provider := r.provider
  fallbackProvider := r.fallbackProvider
  health := r.health
  environment := r.environment
  version := some (columns.number r.version)

def d (r : CapabilityDependency) : CapabilityDependency :=
  r

def cfg (r : ConfigurationVersion Int) : ConfigurationVersion Numeric where
  version := some (columns.number r.version)
  environment := r.environment
  configuration := orEmpty r.configuration
  createdBy := r.createdBy
  createdAt := r.createdAt
  active := r.active

def ph (r : ProviderHealth Int) : ProviderHealth Numeric where
  provider := r.provider
  environment := r.environment
  state := r.state
  lastCheck := r.lastCheck
  latency := r.latency.map fun latency => some (.finite latency)
  details := orEmpty r.details

/-! The statements. -/

/-- `SELECT * FROM platform_capability WHERE environment=$1 ORDER BY name`. -/
def listCapabilities (environment : String) :
    Except ApiError (List (PlatformCapability Numeric)) := do
  let environment ← accepted (columns.text environment)
  let rows := database.capabilities.rows.filter fun r => r.environment = environment
  return (rows.insertionSort fun first second => first.name ≤ second.name).map (c columns)

/-- `SELECT * FROM platform_capability WHERE environment=$1 AND
capability_id=$2`. -/
def getCapability (environment id : String) :
    Except ApiError (Option (PlatformCapability Numeric)) := do
  let environment ← accepted (columns.text environment)
  let id ← accepted (columns.uuid id)
  let found := (database.capabilities.find id).filter fun r => r.environment = environment
  return found.map (c columns)

/-- `SELECT d.* FROM capability_dependency d JOIN platform_capability c ON
c.capability_id=d.capability_id WHERE c.environment=$1`. -/
def listDependencies (environment : String) : Except ApiError (List CapabilityDependency) := do
  let environment ← accepted (columns.text environment)
  let joined := database.dependencies.flatMap fun dependency =>
    (database.capabilities.rows.filter fun capability =>
      decide (capability.capabilityId = dependency.capabilityId) &&
        decide (capability.environment = environment)).map fun _ => dependency
  return joined.map d

/-- `SELECT * FROM configuration_version WHERE environment=$1 ORDER BY version
DESC`. -/
def listConfigVersions (environment : String) :
    Except ApiError (List (ConfigurationVersion Numeric)) := do
  let environment ← accepted (columns.text environment)
  let rows := database.configs.rows.filter fun r => r.environment = environment
  return (rows.insertionSort fun first second => second.version ≤ first.version).map
    (cfg columns)

/-- `SELECT * FROM platform_change WHERE change_id=$1`. -/
def getChange (id : String) : Except ApiError (Option JsObject) := do
  let id ← accepted (columns.uuid id)
  return (database.changes.find id).map fun r => r.ch.toObject

theorem updatedTo_changeId (row : PlatformChange) :
    ∀ stored : PlatformChange, stored.changeId = row.changeId →
      (stored.updatedTo row).changeId = row.changeId :=
  fun _ same => same

/-- The upsert of a change under its id. -/
def saveChange (x : JsObject) : Except ApiError ControlPlaneDatabase := do
  let row ← accepted <|
    (PlatformChange.ofParameters columns.toChangeColumns x).filter fun row =>
      PlatformChange.RollbackExists database.changes.rows row
  return { database with
    changes :=
      database.changes.upsert PlatformChange.updatedTo row (updatedTo_changeId row) }

/-- The row that a configuration is inserted as. -/
def configurationRow (x : ConfigurationVersion Numeric) :
    Option (ConfigurationVersion Int) := do
  let version ← x.version.bind columns.integer
  let environment ← columns.text x.environment
  let configuration ← columns.jsonb x.configuration
  let createdBy ← columns.text x.createdBy
  let createdAt ← columns.timestamp x.createdAt
  return { version, environment, configuration, createdBy, createdAt, active := x.active }

/-- `DO UPDATE SET configuration=EXCLUDED.configuration,active=EXCLUDED.active`:
the environment and the creation stay. -/
def updatedConfiguration (stored saved : ConfigurationVersion Int) :
    ConfigurationVersion Int :=
  { stored with configuration := saved.configuration, active := saved.active }

theorem updatedConfiguration_version (row : ConfigurationVersion Int) :
    ∀ stored : ConfigurationVersion Int, stored.version = row.version →
      (updatedConfiguration stored row).version = row.version :=
  fun _ same => same

/-- The upsert of a configuration under its version alone. -/
def saveConfigVersion (x : ConfigurationVersion Numeric) :
    Except ApiError ControlPlaneDatabase := do
  let row ← accepted (configurationRow columns x)
  let table :=
    database.configs.upsert updatedConfiguration row (updatedConfiguration_version row)
  if oneActive : OneActive table.rows then
    return { database with configs := { toKeyedTable := table, oneActive } }
  else
    throw .internal

/-- What the transaction of `activateConfigVersion` does when it runs on one
connection. -/
def activateInTransaction (environment : String) (version : Numeric) :
    Except ApiError ControlPlaneDatabase := do
  let environment ← accepted (columns.text environment)
  let version ← accepted (version.bind columns.integer)
  if database.configs.rows.any fun row =>
      decide (row.environment = environment) && decide (row.version = version) then
    return { database with configs := database.configs.activate environment version }
  else
    throw configVersionNotFound

theorem activateInTransaction_eq {columns : PostgresColumns} {database : ControlPlaneDatabase}
    {environment : String} {version : Numeric} {number : Int}
    (text : columns.text environment = some environment)
    (isNumber : version.bind columns.integer = some number) :
    activateInTransaction columns database environment version =
      if database.configs.rows.any fun row =>
          decide (row.environment = environment) && decide (row.version = number) then
        .ok { database with configs := database.configs.activate environment number }
      else
        .error configVersionNotFound := by
  unfold activateInTransaction
  rw [text, isNumber]
  rfl

/-- `SELECT * FROM provider_health WHERE environment=$1 ORDER BY provider`. -/
def providerHealth (environment : String) :
    Except ApiError (List (ProviderHealth Numeric)) := do
  let environment ← accepted (columns.text environment)
  let rows := database.health.filter fun r => r.environment = environment
  return (rows.insertionSort fun first second => first.provider ≤ second.provider).map ph

/-- `INSERT INTO audit_event(...)`. -/
def appendAudit (x : JsObject) : Except ApiError ControlPlaneDatabase := do
  let event ← accepted (AuditEvent.ofParameters columns.toChangeColumns x)
  return { database with audit := database.audit ++ [event] }

/-- A read leaves the tables alone. -/
def reads {Reply : Type} (answer : Except ApiError Reply) :
    Except ApiError Reply × ControlPlaneDatabase :=
  (answer, database)

/-- A write that fails leaves the tables alone. -/
def writes (outcome : Except ApiError ControlPlaneDatabase) :
    Except ApiError Unit × ControlPlaneDatabase :=
  match outcome with
  | .ok after => (.ok (), after)
  | .error error => (.error error, database)

theorem writes_eq_ok {database : ControlPlaneDatabase}
    {outcome : Except ApiError ControlPlaneDatabase} {reply : Unit}
    (succeeds : (writes database outcome).1 = .ok reply) :
    outcome = .ok (writes database outcome).2 := by
  cases outcome with
  | ok after => rfl
  | error error => cases succeeds

def perform : (operation : RepositoryOperation) →
    Except ApiError operation.Reply × ControlPlaneDatabase
  | .listCapabilities environment =>
      reads database (listCapabilities columns database environment)
  | .getCapability environment id =>
      reads database (getCapability columns database environment id)
  | .listDependencies environment =>
      reads database (listDependencies columns database environment)
  | .listConfigVersions environment =>
      reads database (listConfigVersions columns database environment)
  | .getChange id => reads database (getChange columns database id)
  | .saveChange change => writes database (saveChange columns database change)
  | .saveConfigVersion version => writes database (saveConfigVersion columns database version)
  | .activateConfigVersion environment version =>
      writes database (activateInTransaction columns database environment version)
  | .providerHealth environment =>
      reads database (providerHealth columns database environment)
  | .appendAudit event => writes database (appendAudit columns database event)

end PostgresControlPlaneRepository

end PlatformArchitecture.Section19.Adapters
