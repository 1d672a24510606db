import PlatformArchitecture.Foundations.PooledSessions
import PlatformArchitecture.Section19.Adapters

/-!
# Activating a configuration version

`activateConfigVersion` clears the active flags of an environment before it
knows that the version exists.  In memory nothing undoes this.  In PostgreSQL a
transaction would, if the pool ran its statements on one connection.
-/

namespace PlatformArchitecture.Section19.Adapters

open PlatformArchitecture.ControlApi
open PlatformArchitecture.Foundations

/-! ## What an activation is for -/

/-- A row after an activation: only its flag may differ, and only in the
environment, where it says whether the row has the version. -/
structure Reflagged {Version : Type} (environment : String) (isVersion : Version → Prop)
    (before after : ConfigurationVersion Version) : Prop where
  rest : after = { before with active := after.active }
  ofEnvironment : before.environment = environment →
    (after.active = true ↔ isVersion before.version)
  elsewhere : before.environment ≠ environment → after.active = before.active

/-- The version is stored in the environment and is the only one active there;
other environments are as they were. -/
structure Activated {Version : Type} (environment : String) (isVersion : Version → Prop)
    (before after : List (ConfigurationVersion Version)) : Prop where
  present : ∃ row ∈ before, row.environment = environment ∧ isVersion row.version
  rows : List.Forall₂ (Reflagged environment isVersion) before after

/-- An activation succeeds, or throws and changes nothing. -/
def AllOrNothing {Version : Type} (environment : String) (isVersion : Version → Prop)
    (before : List (ConfigurationVersion Version)) :
    Except ApiError Unit → List (ConfigurationVersion Version) → Prop
  | .ok _, after => Activated environment isVersion before after
  | .error _, after => after = before

/-- Rows that are replaced one by one. -/
theorem forall₂_map {Version : Type} {environment : String} {isVersion : Version → Prop}
    {change : ConfigurationVersion Version → ConfigurationVersion Version}
    (reflags : ∀ row, Reflagged environment isVersion row (change row))
    (rows : List (ConfigurationVersion Version)) :
    List.Forall₂ (Reflagged environment isVersion) rows (rows.map change) := by
  induction rows with
  | nil => exact List.Forall₂.nil
  | cons row rest inductionHypothesis =>
      exact List.Forall₂.cons (reflags row) inductionHypothesis

/-! ## In memory -/

namespace InMemoryControlPlaneRepository

variable {repository : InMemoryControlPlaneRepository} {environment : String}
  {version : Numeric}

/-- A version of the environment is stored, or none is active. -/
def StoredOrNoneActive (repository : InMemoryControlPlaneRepository) (environment : String)
    (version : Numeric) : Prop :=
  (∃ x ∈ repository.configs, x.environment = environment ∧
      strictEquals x.version version = true) ∨
    ∀ x ∈ repository.configs, x.environment = environment → x.active = false

theorem any_isVersion_iff :
    repository.configs.any (isVersion environment version) = true ↔
      ∃ x ∈ repository.configs, x.environment = environment ∧
        strictEquals x.version version = true := by
  simp [List.any_eq_true, isVersion]

theorem reflagged_withActive (x : ConfigurationVersion Numeric) :
    Reflagged environment (fun stored => strictEquals stored version = true) x
      (withActive environment version x) := by
  by_cases same : x.environment = environment
  · rw [withActive_of_environment same]
    exact
      { rest := rfl
        ofEnvironment := fun _ => Iff.rfl
        elsewhere := fun other => absurd same other }
  · rw [withActive_elsewhere same]
    exact
      { rest := rfl
        ofEnvironment := fun ofEnvironment => absurd ofEnvironment same
        elsewhere := fun _ => rfl }

/-- Without the version, the flags of the environment are all cleared. -/
theorem map_withActive_eq_self_iff
    (absent : ¬ ∃ x ∈ repository.configs, x.environment = environment ∧
      strictEquals x.version version = true) :
    repository.configs.map (withActive environment version) = repository.configs ↔
      ∀ x ∈ repository.configs, x.environment = environment → x.active = false := by
  have cleared : ∀ x ∈ repository.configs, x.environment = environment →
      withActive environment version x = { x with active := false } := by
    intro x member ofEnvironment
    have different : strictEquals x.version version = false := by
      cases same : strictEquals x.version version with
      | false => rfl
      | true => exact absurd ⟨x, member, ofEnvironment, same⟩ absent
    rw [withActive_of_environment ofEnvironment, different]
  have rowByRow : repository.configs.map (withActive environment version) =
      repository.configs ↔
        ∀ x ∈ repository.configs, withActive environment version x = x := by
    have asMap :=
      @List.map_inj_left _ _ repository.configs (withActive environment version) id
    rwa [List.map_id] at asMap
  rw [rowByRow]
  constructor
  · intro unchanged x member ofEnvironment
    have same := unchanged x member
    rw [cleared x member ofEnvironment] at same
    rw [← same]
  · intro noneActive x member
    by_cases ofEnvironment : x.environment = environment
    · have inactive := noneActive x member ofEnvironment
      rw [cleared x member ofEnvironment, ← inactive]
    · exact withActive_elsewhere ofEnvironment

theorem activateConfigVersion_configs :
    (repository.activateConfigVersion environment version).2.configs =
      repository.configs.map (withActive environment version) :=
  rfl

theorem activateConfigVersion_result :
    (repository.activateConfigVersion environment version).1 =
      if repository.configs.any (isVersion environment version) then .ok ()
      else .error configVersionNotFound :=
  rfl

theorem activateConfigVersion_allOrNothing_iff :
    AllOrNothing environment (fun stored => strictEquals stored version = true)
        repository.configs (repository.activateConfigVersion environment version).1
        (repository.activateConfigVersion environment version).2.configs ↔
      repository.StoredOrNoneActive environment version := by
  rw [activateConfigVersion_configs, activateConfigVersion_result, StoredOrNoneActive]
  by_cases stored : ∃ x ∈ repository.configs, x.environment = environment ∧
      strictEquals x.version version = true
  · rw [if_pos (any_isVersion_iff.mpr stored)]
    constructor
    · intro _
      exact Or.inl stored
    · intro _
      exact ⟨stored, forall₂_map reflagged_withActive repository.configs⟩
  · rw [if_neg fun found => stored (any_isVersion_iff.mp found)]
    change repository.configs.map _ = repository.configs ↔ _
    rw [map_withActive_eq_self_iff stored, or_iff_right stored]

end InMemoryControlPlaneRepository

/-! ## The statements of the PostgreSQL adapter -/

inductive ActivationStatement where
  | begin
  | clearActive (environment : String)
  | setActive (environment : String) (version : Numeric)
  | commit
  | rollback

abbrev ActivationStatement.Reply : ActivationStatement → Type
  | .setActive _ _ => List Int
  | _ => Unit

abbrev ActivationProgram :=
  Program ActivationStatement ActivationStatement.Reply ApiError Unit

abbrev awaitActivation (statement : ActivationStatement) :
    Program ActivationStatement ActivationStatement.Reply ApiError statement.Reply :=
  Program.call statement

namespace PostgresControlPlaneRepository

def activateConfigVersion (environment : String) (version : Numeric) :
    ActivationProgram := do
  awaitActivation .begin
  let body : ActivationProgram := do
    awaitActivation (.clearActive environment)
    let rows ← awaitActivation (.setActive environment version)
    if rows.length = 0 then
      throw configVersionNotFound
    awaitActivation .commit
  body.orElse fun error => do
    awaitActivation .rollback
    throw error

end PostgresControlPlaneRepository

/-- `UPDATE configuration_version SET active=... WHERE environment=...`, with
`AND version=...` in the second one. -/
structure FlagUpdate where
  environment : String
  version : Option Int
  active : Bool
  deriving DecidableEq

namespace FlagUpdate

def selects (update : FlagUpdate) (row : ConfigurationVersion Int) : Bool :=
  decide (row.environment = update.environment) &&
    update.version.all fun version => decide (row.version = version)

def applyTo (rows : List (ConfigurationVersion Int)) (update : FlagUpdate) :
    List (ConfigurationVersion Int) :=
  rows.map fun row => if update.selects row then { row with active := update.active } else row

/-- An open transaction has written, and so locked, a row that the update
selects; a failed one has let go of its locks. -/
def meets (rows : List (ConfigurationVersion Int)) (update : FlagUpdate)
    (opened : Transaction FlagUpdate) : Bool :=
  !opened.aborted && opened.pending.any fun other =>
    rows.any fun row => other.selects row && update.selects row

end FlagUpdate

section Server

variable {Connection : Type} [DecidableEq Connection]

abbrev ActivationStore (Connection : Type) :=
  TransactionalStore Connection (List (ConfigurationVersion Int)) FlagUpdate

/-- An update whose parameters are accepted waits for the locks of others and
answers with the rows it selects; the unique index may refuse it. -/
def judgeUpdate {Reply : Type} (answer : List (ConfigurationVersion Int) → Reply)
    (update : Option FlagUpdate) (connection : Connection)
    (store : ActivationStore Connection) (opened : Transaction FlagUpdate) :
    Verdict Reply FlagUpdate :=
  match update with
  | none => .reject
  | some update =>
      let seen := opened.pending.foldl FlagUpdate.applyTo store.table
      if store.anyOther connection (update.meets store.table) then .wait
      else if OneActive (FlagUpdate.applyTo seen update) then
        .accept (answer (seen.filter update.selects)) [update]
      else .reject

def executeUpdate {Reply : Type} (answer : List (ConfigurationVersion Int) → Reply)
    (update : Option FlagUpdate) (fault : Fault) (connection : Connection)
    (store : ActivationStore Connection) :
    Option (Except ApiError Reply × ActivationStore Connection) :=
  store.pooledStatement .internal FlagUpdate.applyTo
    (judgeUpdate answer update connection store) fault connection

/-- `SET active=false WHERE environment=$1`. -/
def clearUpdate (columns : PostgresColumns) (environment : String) : Option FlagUpdate := do
  let environment ← columns.text environment
  return { environment, version := none, active := false }

/-- `SET active=true WHERE environment=$1 AND version=$2`. -/
def setUpdate (columns : PostgresColumns) (environment : String) (version : Numeric) :
    Option FlagUpdate := do
  let environment ← columns.text environment
  let version ← version.bind columns.integer
  return { environment, version := some version, active := true }

def executeActivation (columns : PostgresColumns) (statement : ActivationStatement)
    (connection : Connection) (fault : Fault) (store : ActivationStore Connection) :
    Option (Except ApiError statement.Reply × ActivationStore Connection) :=
  match statement with
  | .begin => some (store.begin .internal fault connection)
  | .clearActive environment =>
      executeUpdate (fun _ => ()) (clearUpdate columns environment) fault connection store
  | .setActive environment version =>
      executeUpdate (fun rows => rows.map ConfigurationVersion.version)
        (setUpdate columns environment version) fault connection store
  | .commit => some (store.pooledCommit .internal FlagUpdate.applyTo fault connection)
  | .rollback => some (store.pooledRollback .internal fault connection)

def activationPool (Connection : Type) [DecidableEq Connection] (columns : PostgresColumns) :
    Pool Connection (ActivationStore Connection) ActivationStatement
      ActivationStatement.Reply ApiError where
  execute := executeActivation columns

/-- However the rows are read back, the activation happened, or the call threw
and nothing happened. -/
def SeenAllOrNothing (columns : PostgresColumns) (environment : String) (version : Numeric)
    (rows : List (ConfigurationVersion Int)) (result : Except ApiError Unit)
    (store : ActivationStore Connection) : Prop :=
  ∀ connection,
    AllOrNothing environment (fun stored => version.bind columns.integer = some stored) rows
      result (store.seenBy FlagUpdate.applyTo connection)

end Server

/-! ## The stages of the call -/

section Stages

variable {Connection : Type} [DecidableEq Connection] {columns : PostgresColumns}
  {environment : String} {version : Numeric}

/-- The catch block: roll back and rethrow. -/
def undoActivation (error : ApiError) : ActivationProgram :=
  .branch .rollback (fun _ => .fail error) .fail

def commitActivation : ActivationProgram :=
  .branch .commit .done undoActivation

def afterSet (rows : List Int) : ActivationProgram :=
  if rows.length = 0 then undoActivation configVersionNotFound else commitActivation

def setVersion (environment : String) (version : Numeric) : ActivationProgram :=
  .branch (.setActive environment version) afterSet undoActivation

def clearFlags (environment : String) (version : Numeric) : ActivationProgram :=
  .branch (.clearActive environment) (fun _ => setVersion environment version) undoActivation

theorem activateConfigVersion_eq :
    PostgresControlPlaneRepository.activateConfigVersion environment version =
      .branch .begin (fun _ => clearFlags environment version) .fail := by
  have caught : (fun error => do
      awaitActivation .rollback
      throw error) = undoActivation := by
    funext error
    simp only [awaitActivation, Program.call_bind, Program.throw_eq]
    rfl
  have checked : ∀ rows : List Int,
      (if rows.length = 0 then
          throw configVersionNotFound >>= fun _ : Unit => awaitActivation .commit
        else awaitActivation .commit : ActivationProgram).orElse undoActivation =
        afterSet rows := by
    intro rows
    unfold afterSet
    split
    · rfl
    · exact Program.branch_orElse _ _ _ _
  unfold PostgresControlPlaneRepository.activateConfigVersion
  rw [caught]
  simp only [awaitActivation, Program.call_bind, Program.branch_orElse, Program.fail_orElse]
  simp only [checked]
  rfl

end Stages

end PlatformArchitecture.Section19.Adapters
