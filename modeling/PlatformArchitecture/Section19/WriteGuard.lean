import PlatformArchitecture.ControlApi.ChangeLifecycle
import PlatformArchitecture.Section19.PooledRoutes

/-!
# Operators without write permission

Both route families of the control API over their two stores.  Every handler of
`/v1/control` that writes asks for the write permission first; no handler of the
`/platform` routes asks for it, so what keeps an operator without it from
changing their store are only the checks that refuse everyone.  For a version
that is not stored this takes a pool that keeps the activation on one
connection: otherwise the flags are cleared before the version is missed.
-/

namespace PlatformArchitecture.Section19

open PlatformArchitecture.ControlApi
open PlatformArchitecture.Foundations
open PlatformArchitecture.Postgres

open PlatformArchitecture.Section19.Adapters (PostgresColumns)

/-- The two stores of the control API. -/
structure ApiState (Connection : Type) where
  control : ControlState
  platform : PooledPlatform Connection

/-- A request to either route family. -/
inductive ApiRequest (Connection : Type) where
  | control (served : ServedRequest)
  | platform (served : PooledServed Connection)

def ApiRequest.operator {Connection : Type} : ApiRequest Connection → Operator
  | .control served => served.context.operator
  | .platform served => served.context.operator

/-- A request to the `/platform` routes that its own checks or the columns
refuse, whoever makes it. -/
structure Refused (columns : ChangeColumns) (environment : String) (state : PlatformState)
    (context : PlatformContext) (request : PlatformRequest) : Prop where
  saves : ∀ x, Saves columns environment context state request x →
    state.insertable columns x = none
  activates : ∀ version, request = .activateConfig version →
    ∀ number, version.bind columns.integer = some number →
      ∀ config ∈ state.configs,
        ¬ (config.environment = environment ∧ config.version = number)

section Requests

variable {Connection : Type} [DecidableEq Connection]

def serveApi (columns : PostgresColumns) (environment : String) (state : ApiState Connection) :
    ApiRequest Connection → ApiState Connection
  | .control served =>
      { state with
        control := serve columns.toColumnTypes environment state.control served }
  | .platform served =>
      { state with platform := servePooled columns environment state.platform served }

/-- What is asked of a request: its operator may not write, and a request to the
`/platform` routes is refused, an activation in one transaction. -/
structure ReadOnlyRefused (columns : PostgresColumns) (environment : String)
    (state : ApiState Connection) (request : ApiRequest Connection) : Prop where
  readOnly : ¬ request.operator.mayWrite
  refused : ∀ served, request = .platform served →
    Refused columns.toChangeColumns environment state.platform.committed served.context
      served.request
  orderly : ∀ served, request = .platform served → Orderly state.platform served

/-- Every handler of `/v1/control` that writes asks for the permission before
its first statement. -/
theorem handleControl_readOnly {environment : String} {context : RequestContext}
    (readOnly : ¬ context.operator.mayWrite) (request : ControlRequest) :
    (∃ error, handleControl environment context request = .fail error) ∨
      ∃ answer, handleControl environment context request = .done answer := by
  obtain ⟨error, denied⟩ : ∃ error, requireControlWrite context.operator = .error error :=
    ⟨_, throwIf_of_pos readOnly⟩
  cases request with
  | read => exact Or.inr ⟨.read, rfl⟩
  | putDesiredState | putPage | postChange | postTransition | postEmergency
  | previewWorkflow =>
      left
      refine ⟨error, ?_⟩
      simp only [handleControl, putDesiredState, putPage, postChange, postTransition,
        postEmergency, denied, Program.check_error, Program.fail_bind]

theorem serve_readOnly {types : ColumnTypes} {environment : String} {state : ControlState}
    {served : ServedRequest} (readOnly : ¬ served.context.operator.mayWrite) :
    serve types environment state served = state := by
  unfold serve respond
  rcases handleControl_readOnly readOnly served.request with
    ⟨error, failed⟩ | ⟨answer, answered⟩
  · rw [failed]
    rfl
  · rw [answered]
    rfl

theorem servePlatform_refused {columns : ChangeColumns} {environment : String}
    {state : PlatformState} {served : PlatformServed}
    (refused : Refused columns environment state served.context served.request) :
    servePlatform columns environment state served = state := by
  cases servePlatform_effect columns environment state served with
  | unchanged same => exact same
  | saved x row saves accepted changes =>
      rw [refused.saves x saves] at accepted
      cases accepted
  | activated version number config asked isNumber stored ofEnvironment sameVersion =>
      exact absurd ⟨ofEnvironment, sameVersion⟩
        (refused.activates version asked number isNumber config stored)

/-- The transaction of an activation that misses its version is undone, and
nothing of it stays open. -/
theorem servePooled_missing {columns : PostgresColumns} {environment : String}
    {state : PooledPlatform Connection} {served : PooledServed Connection}
    {version : Option JsNumber} (asked : served.request = .activateConfig version)
    (one : OneTransaction state served.route)
    (missing : ∀ number, version.bind columns.integer = some number →
      ∀ config ∈ state.committed.configs,
        ¬ (config.environment = environment ∧ config.version = number)) :
    servePooled columns environment state served = state := by
  obtain ⟨rest, result, after, last, -, -, ends, left⟩ :=
    @servePooled_activation Connection _ columns state environment served version asked one
  have untouched : after.Settled state.configurations.table →
      state.withConfigurations after = state := by
    intro settled
    have same : after = state.configurations :=
      settled.eq_idle.trans one.settled.eq_idle.symm
    rw [same]
    rfl
  rw [left]
  cases ends with
  | failed settled | missing _ _ settled => exact untouched settled
  | activated isNumber stored settled told =>
      obtain ⟨config, member, found⟩ := exists_flags.mpr stored
      exact absurd found (missing _ isNumber config member)

theorem servePooled_refused {columns : PostgresColumns} {environment : String}
    {state : PooledPlatform Connection} {served : PooledServed Connection}
    (refused : Refused columns.toChangeColumns environment state.committed served.context
      served.request)
    (orderly : Orderly state served) :
    servePooled columns environment state served = state := by
  by_cases asked : ∃ version, served.request = .activateConfig version
  · obtain ⟨version, asked⟩ := asked
    exact servePooled_missing asked (orderly version asked) (refused.activates version asked)
  · obtain ⟨deliveries, left, -⟩ :=
      servePooled_queries columns environment state fun version same => asked ⟨version, same⟩
    rw [left]
    have same : servePlatform columns.toChangeColumns environment state.committed
        ⟨served.context, served.request, deliveries⟩ = state.committed :=
      servePlatform_refused refused
    rw [same, withTables_committed]

/-- One such request leaves both stores as they were. -/
theorem serveApi_unchanged {columns : PostgresColumns} {environment : String}
    (state : ApiState Connection) (request : ApiRequest Connection)
    (guarded : ReadOnlyRefused columns environment state request) :
    serveApi columns environment state request = state := by
  cases request with
  | control served =>
      have same : serve columns.toColumnTypes environment state.control served =
          state.control :=
        serve_readOnly guarded.readOnly
      simp only [serveApi, same]
  | platform served =>
      have same : servePooled columns environment state.platform served = state.platform :=
        servePooled_refused (guarded.refused served rfl) (guarded.orderly served rfl)
      simp only [serveApi, same]

/-- In every run of requests by operators without write permission whose
requests to the `/platform` routes are refused, both stores stay as they were. -/
theorem storesUnchanged_of_refused (columns : PostgresColumns) (environment : String)
    (start : ApiState Connection) (requests : List (ApiRequest Connection))
    (guarded : EveryStep (serveApi columns environment)
      (ReadOnlyRefused columns environment) start requests) :
    run (serveApi columns environment) start requests = start :=
  run_unchanged id serveApi_unchanged guarded

end Requests

/-- A request to a pool of two connections that hands every query to the first
one and loses it at the fourth. -/
private def losingRollback (request : PlatformRequest) : PooledServed Bool where
  context :=
    { operator := Operator.sre "auditor" ["platform:read"]
      requestId := "request"
      now := "2026-01-01T00:00:00.000Z"
      randomId := "1d2e3f4a-5b6c-4d7e-8f90-a1b2c3d4e5f6" }
  request
  route _ := false
  faults n := if n = 3 then .connectionLost else .none

private def createEmail (riskLevel : String) : PlatformRequest :=
  .create (some (.obj
    [("capability", .str "email"), ("oldState", .obj []), ("desiredState", .obj []),
      ("riskLevel", .str riskLevel)]))

private def readOnlyPage : ServedRequest where
  context :=
    { operator := Operator.sre "auditor" ["platform:read"]
      now := "2026-01-01T00:00:00.000Z"
      randomId := "" }
  request := .putPage "costs" (some (.obj []))
  deliveries := []

/-- Version 1 is active, and nothing else is stored. -/
private def firstVersionActive : ApiState Bool where
  control := emptyControlState
  platform :=
    { changes := []
      configurations := .idle
        [{ version := 1
           environment := "production"
           configuration := .obj []
           createdBy := "operator"
           createdAt := "2026-01-01T00:00:00.000Z"
           active := true }]
      audit := [] }

/-- A page, a locked change, and a version that is not stored and whose
`ROLLBACK` is lost. -/
theorem refusedRequestsChangeNothing :
    run (serveApi .verbatim "production") firstVersionActive
        [.control readOnlyPage, .platform (losingRollback (createEmail "LOCKED")),
          .platform (losingRollback (.activateConfig (some (.finite (2 : Int)))))] =
      firstVersionActive := by
  apply storesUnchanged_of_refused
  refine ⟨⟨by decide, ?_, ?_⟩, ⟨by decide, ?_, ?_⟩, ⟨by decide, ?_, ?_⟩, trivial⟩
  · intro served same
    cases same
  · intro served same
    cases same
  · intro served same
    cases same
    constructor
    · intro x saves
      cases saves with
      | created unlocked => exact absurd (by decide) unlocked
      | moved transitions =>
          obtain ⟨id, asked, -⟩ := transitions.asked
          cases asked
    · intro version same
      cases same
  · intro served same version asked
    cases same
    cases asked
  · intro served same
    cases same
    constructor
    · intro x saves
      cases saves with
      | moved transitions =>
          obtain ⟨id, asked, -⟩ := transitions.asked
          cases asked
    · intro version asked number isNumber config member found
      cases asked
      cases isNumber
      revert found
      revert config
      decide
  · intro served same version asked
    cases same
    exact ⟨TransactionalStore.settled_idle _, fun _ _ => rfl⟩

/-- An operator who may only read creates a change of the `/platform` routes. -/
theorem readOnlyOperatorCreates :
    ¬ ∀ (columns : PostgresColumns) (start : ApiState Bool)
        (requests : List (ApiRequest Bool)),
        (∀ request ∈ requests, ¬ request.operator.mayWrite) →
          run (serveApi columns "production") start requests = start := by
  intro neverChanges
  have unchanged :=
    neverChanges .verbatim firstVersionActive
      [.platform (losingRollback (createEmail "GREEN"))] (by decide)
  have stored : (run (serveApi .verbatim "production") firstVersionActive
      [.platform (losingRollback (createEmail "GREEN"))]).platform.changes ≠ [] := by
    decide
  rw [unchanged] at stored
  exact stored rfl

end PlatformArchitecture.Section19
