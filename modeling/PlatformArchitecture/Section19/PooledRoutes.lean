import PlatformArchitecture.Section19.ActivationTransaction
import PlatformArchitecture.Section19.Effects

/-!
# The routes over a pool of connections

The server hands the Section 19 repository its pool, so `BEGIN`, the two updates
and `COMMIT` or `ROLLBACK` of an activation are queries of their own.  When the
pool keeps them on one connection, a request does what it does over statements
that are one step each.
-/

namespace PlatformArchitecture.Section19

open PlatformArchitecture.ControlApi
open PlatformArchitecture.Foundations
open PlatformArchitecture.Section19.Adapters
  (ActivationStatement ActivationStore EndsAsOne PostgresColumns activationPool
    configVersionNotFound)

/-! ## The tables -/

/-- The tables of the repository, where activations may have open transactions. -/
structure PooledPlatform (Connection : Type) where
  changes : List PlatformChange
  configurations : ActivationStore Connection
  audit : List AuditEvent

/-- What the routes look at of a configuration. -/
def flagsOf (row : Adapters.ConfigurationVersion Int) : ConfigurationVersion where
  version := row.version
  environment := row.environment
  active := row.active

section Tables

variable {Connection : Type}

/-- What is committed. -/
def PooledPlatform.committed (state : PooledPlatform Connection) : PlatformState where
  changes := state.changes
  configs := state.configurations.table.map flagsOf
  audit := state.audit

/-- The tables after a statement that keeps the configurations. -/
def PooledPlatform.withTables (state : PooledPlatform Connection) (after : PlatformState) :
    PooledPlatform Connection :=
  { state with
    changes := after.changes
    audit := after.audit }

def PooledPlatform.withConfigurations (state : PooledPlatform Connection)
    (configurations : ActivationStore Connection) : PooledPlatform Connection :=
  { state with configurations }

theorem withTables_committed (state : PooledPlatform Connection) :
    state.withTables state.committed = state :=
  rfl

theorem committed_withTables {state : PooledPlatform Connection} {after : PlatformState}
    (same : after.configs = state.committed.configs) :
    (state.withTables after).committed = after := by
  obtain ⟨changes, configs, audit⟩ := after
  cases same
  rfl

end Tables

/-! ## The queries -/

/-- The queries of the repository. -/
inductive PooledStatement where
  | selectChange (id : String)
  | upsertChange (x : JsObject)
  | activation (statement : ActivationStatement)
  | insertAudit (event : JsObject)

abbrev PooledStatement.Reply : PooledStatement → Type
  | .selectChange _ => Option PlatformChange
  | .activation statement => statement.Reply
  | _ => Unit

abbrev PooledProgram (Result : Type) :=
  Program PooledStatement PooledStatement.Reply ApiError Result

abbrev awaitPooled (statement : PooledStatement) : PooledProgram statement.Reply :=
  Program.call statement

/-- How a fault of a query by itself looks to the one who issued it. -/
def deliveryOf : Fault → Delivery
  | .none => .answered
  | .acknowledgementLost => .unacknowledged
  | .statementError | .connectionLost => .refused

section Server

variable {Connection : Type} [DecidableEq Connection]

/-- A query outside the transactions of activations, which none of them has left
open on its connection. -/
def PooledPlatform.attempt (columns : ChangeColumns) (state : PooledPlatform Connection)
    (statement : PlatformStatement) (fault : Fault) :
    Except ApiError statement.Reply × PooledPlatform Connection :=
  let outcome :=
    (platformDatabase columns).attempt (deliveryOf fault) statement state.committed
  (outcome.1, state.withTables outcome.2)

def executePooled (columns : PostgresColumns) (statement : PooledStatement)
    (connection : Connection) (fault : Fault) (state : PooledPlatform Connection) :
    Option (Except ApiError statement.Reply × PooledPlatform Connection) :=
  match statement with
  | .selectChange id => some (state.attempt columns.toChangeColumns (.selectChange id) fault)
  | .upsertChange x => some (state.attempt columns.toChangeColumns (.upsertChange x) fault)
  | .insertAudit x => some (state.attempt columns.toChangeColumns (.insertAudit x) fault)
  | .activation statement =>
      ((activationPool Connection columns).execute statement connection fault
        state.configurations).map fun outcome =>
          (outcome.1, state.withConfigurations outcome.2)

def platformPool (Connection : Type) [DecidableEq Connection] (columns : PostgresColumns) :
    Pool Connection (PooledPlatform Connection) PooledStatement PooledStatement.Reply
      ApiError where
  execute := executePooled columns

end Server

/-- The queries that carry out a statement of the repository. -/
def queriesOf : (statement : PlatformStatement) → PooledProgram statement.Reply
  | .selectChange id => awaitPooled (.selectChange id)
  | .upsertChange x => awaitPooled (.upsertChange x)
  | .activateConfigVersion environment version =>
      (Adapters.PostgresControlPlaneRepository.activateConfigVersion environment
        version).embed PooledStatement.activation
  | .insertAudit event => awaitPooled (.insertAudit event)

/-- A request, with the connection and the fault of each of its queries. -/
structure PooledServed (Connection : Type) where
  context : PlatformContext
  request : PlatformRequest
  route : Nat → Connection
  faults : Nat → Fault

section Requests

variable {Connection : Type} [DecidableEq Connection]

def servePooled (columns : PostgresColumns) (environment : String)
    (state : PooledPlatform Connection) (served : PooledServed Connection) :
    PooledPlatform Connection :=
  ((handlePlatform environment served.context served.request).expand queriesOf).leavesPooled
    (platformPool Connection columns) served.route served.faults 0 state

/-! ## Statements of one query -/

/-- Every statement but an activation is one query. -/
def PlatformStatement.IsQuery : PlatformStatement → Prop
  | .activateConfigVersion _ _ => False
  | _ => True

theorem executePlatform_configs {columns : ChangeColumns} {statement : PlatformStatement}
    (query : statement.IsQuery) {reply : statement.Reply} {before after : PlatformState}
    (executed : executePlatform columns statement before = .ok (reply, after)) :
    after.configs = before.configs := by
  cases statement with
  | activateConfigVersion => exact absurd query id
  | selectChange id =>
      obtain ⟨-, -, rfl, -⟩ := executePlatform_selectChange executed
      rfl
  | upsertChange x =>
      obtain ⟨-, -, rfl⟩ := executePlatform_upsertChange executed
      rfl
  | insertAudit event =>
      dsimp only [executePlatform] at executed
      split at executed
      · cases executed
      · cases executed
        rfl

theorem attempt_configs (columns : ChangeColumns) {statement : PlatformStatement}
    (query : statement.IsQuery) (delivery : Delivery) (state : PlatformState) :
    ((platformDatabase columns).attempt delivery statement state).2.configs =
      state.configs := by
  rcases (platformDatabase columns).attempt_cases delivery statement state with
    ⟨error, failed⟩ | ⟨reply, after, executed, told | lost⟩
  · rw [failed]
  · rw [told]
    exact executePlatform_configs query executed
  · rw [lost]
    exact executePlatform_configs query executed

variable {columns : PostgresColumns} {state : PooledPlatform Connection}
  {route : Nat → Connection} {faults : Nat → Fault}

/-- One query, and what comes after it. -/
theorem leavesPooled_query {Result : Type} {statement : PlatformStatement}
    (query : statement.IsQuery)
    (rest : Except ApiError statement.Reply → PooledProgram Result) (issued : Nat)
    (state : PooledPlatform Connection) :
    ((queriesOf statement).outcomeThen rest).leavesPooled (platformPool Connection columns)
        route faults issued state =
      (rest (state.attempt columns.toChangeColumns statement (faults issued)).1).leavesPooled
        (platformPool Connection columns) route faults (issued + 1)
        (state.attempt columns.toChangeColumns statement (faults issued)).2 := by
  cases statement with
  | activateConfigVersion => exact absurd query id
  | selectChange | upsertChange | insertAudit =>
      rw [queriesOf, awaitPooled, Program.call_outcomeThen]
      rfl

/-- A program without an activation runs over the pool as over statements. -/
theorem leavesPooled_queries {Result : Type} {program : PlatformProgram Result}
    (queries : program.Issues PlatformStatement.IsQuery) (issued : Nat)
    (state : PooledPlatform Connection) :
    ∃ deliveries,
      (program.expand queriesOf).leavesPooled (platformPool Connection columns) route faults
          issued state =
        state.withTables
          (program.run (platformDatabase columns.toChangeColumns) deliveries
            state.committed).2 ∧
      (program.run (platformDatabase columns.toChangeColumns) deliveries
          state.committed).2.configs = state.committed.configs := by
  induction program generalizing issued state with
  | done result => exact ⟨[], rfl, rfl⟩
  | fail error => exact ⟨[], rfl, rfl⟩
  | perform statement next inductionHypothesis =>
      obtain ⟨query, queriesAfter⟩ := queries
      have sameConfigs := attempt_configs columns.toChangeColumns query
        (deliveryOf (faults issued)) state.committed
      have committed := committed_withTables sameConfigs
      obtain ⟨deliveries, left, configs⟩ :=
        inductionHypothesis (state.attempt columns.toChangeColumns statement (faults issued)).1
          (queriesAfter _) (issued + 1)
          (state.attempt columns.toChangeColumns statement (faults issued)).2
      have attempted : (state.attempt columns.toChangeColumns statement
          (faults issued)).2.committed =
            ((platformDatabase columns.toChangeColumns).attempt (deliveryOf (faults issued))
              statement state.committed).2 :=
        committed
      rw [attempted] at left configs
      refine ⟨deliveryOf (faults issued) :: deliveries, ?_, configs.trans sameConfigs⟩
      exact (leavesPooled_query query _ issued state).trans left

/-! ## The handlers -/

theorem requireChange_queries (id : String) :
    (ControlPlaneService.requireChange id).Issues PlatformStatement.IsQuery := by
  refine Program.issues_bind ?_ (Program.issues_bind (fun _ => by trivial)
    (Program.issues_call (by trivial)))
  intro change
  cases change with
  | none => trivial
  | some change => trivial

theorem audit_queries {timestamp action : String}
    {actor resource environment correlationId oldValue newValue : Option Json} :
    (ControlPlaneService.audit timestamp actor action resource environment correlationId
      oldValue newValue).Issues PlatformStatement.IsQuery :=
  Program.issues_call (by trivial)

theorem createChange_queries (context : PlatformContext) (input : JsObject) :
    (ControlPlaneService.createChange context input).Issues PlatformStatement.IsQuery := by
  refine Program.issues_bind ?_ (Program.issues_check _)
  intro _
  refine Program.issues_bind ?_ (Program.issues_call (by trivial))
  intro _
  exact Program.issues_bind (fun _ => by trivial) audit_queries

theorem move_queries (context : PlatformContext) (id : String) (next : ChangeState) :
    (move context id next).Issues PlatformStatement.IsQuery := by
  refine Program.issues_bind (fun _ => by trivial) ?_
  refine Program.issues_bind ?_ (requireChange_queries id)
  intro change
  refine Program.issues_bind ?_ (Program.issues_check _)
  intro _
  refine Program.issues_bind ?_ (Program.issues_call (by trivial))
  intro _
  exact Program.issues_bind (fun _ => by trivial) audit_queries

/-- Only a request to activate a configuration activates one. -/
theorem handlePlatform_queries {environment : String} {context : PlatformContext}
    {request : PlatformRequest} (other : ∀ version, request ≠ .activateConfig version) :
    (handlePlatform environment context request).Issues PlatformStatement.IsQuery := by
  cases request with
  | activateConfig version => exact absurd rfl (other version)
  | read => trivial
  | create body =>
      exact Program.issues_bind (fun _ => by trivial) (createChange_queries context _)
  | plan | apply | rollback => exact move_queries context _ _
  | validate id body =>
      exact Program.issues_bind (fun _ => move_queries context id _) (Program.issues_check _)
  | approve id =>
      refine Program.issues_bind ?_ (requireChange_queries id)
      intro change
      exact Program.issues_bind (fun _ => move_queries context id _) (Program.issues_check _)

/-! ## Activations -/

/-- A version is activated first, and the rest is one query. -/
theorem handlePlatform_activateConfig (environment : String) (context : PlatformContext)
    (version : Option JsNumber) :
    ∃ rest : PlatformProgram PlatformAnswer, rest.Issues PlatformStatement.IsQuery ∧
      handlePlatform environment context (.activateConfig version) =
        .branch (.activateConfigVersion environment version) (fun _ => rest) .fail := by
  refine ⟨ControlPlaneService.audit context.now (some (.str context.operator.userId))
      "config.activate"
      (some (.str ((version.map fun number => (Json.num number).text).getD "NaN")))
      (some (.str environment)) (some (.str context.requestId)) none none >>= fun _ =>
        .done (.activated version), ?_, ?_⟩
  · exact Program.issues_bind (fun _ => by trivial) audit_queries
  · change (Program.call _ >>= fun _ => _) >>= _ = _
    rw [Program.call_bind, Program.branch_bind]
    rfl

theorem exists_flags {rows : List (Adapters.ConfigurationVersion Int)} {environment : String}
    {number : Int} :
    (∃ config ∈ rows.map flagsOf,
        config.environment = environment ∧ config.version = number) ↔
      ∃ row ∈ rows, row.environment = environment ∧ row.version = number := by
  simp [flagsOf]

theorem flags_activeRow (rows : List (Adapters.ConfigurationVersion Int))
    (environment : String) (number : Int) :
    (rows.map (Adapters.activeRow environment number)).map flagsOf =
      (rows.map flagsOf).map fun config =>
        if config.environment = environment then
          { config with active := decide (config.version = number) }
        else
          config := by
  rw [List.map_map, List.map_map]
  apply List.map_congr_left
  intro row _
  by_cases ofEnvironment : row.environment = environment
  · simp [flagsOf, Adapters.activeRow, ofEnvironment]
  · simp [flagsOf, Adapters.activeRow, ofEnvironment]

theorem committed_of_settled {after : ActivationStore Connection}
    (settled : after.Settled state.configurations.table) :
    (state.withConfigurations after).committed = state.committed := by
  simp only [PooledPlatform.committed, PooledPlatform.withConfigurations, settled.committed]

/-- What an activation on one connection does is one delivery of the statement
that stands for it. -/
theorem attempt_of_endsAsOne {environment : String} {version : Option JsNumber}
    {commitFault : Fault} {after : ActivationStore Connection} {result : Except ApiError Unit}
    (ends : EndsAsOne columns environment version commitFault state.configurations.table
      after result) :
    ∃ delivery,
      (platformDatabase columns.toChangeColumns).attempt delivery
          (.activateConfigVersion environment version) state.committed =
        (result, (state.withConfigurations after).committed) := by
  cases ends with
  | failed settled =>
      refine ⟨.refused, ?_⟩
      rw [committed_of_settled settled]
      rfl
  | missing isNumber absent settled =>
      refine ⟨.answered, ?_⟩
      have rejected : executePlatform columns.toChangeColumns
          (.activateConfigVersion environment version) state.committed =
            .error configVersionNotFound := by
        simp only [executePlatform, isNumber]
        exact if_neg fun found => absent (exists_flags.mp found)
      rw [committed_of_settled settled]
      unfold Database.attempt
      simp only [platformDatabase, rejected]
  | activated isNumber stored settled told =>
      have activates : executePlatform columns.toChangeColumns
          (.activateConfigVersion environment version) state.committed =
            .ok ((), (state.withConfigurations after).committed) := by
        simp only [executePlatform, isNumber]
        refine (if_pos (exists_flags.mpr stored)).trans ?_
        simp only [PooledPlatform.committed, PooledPlatform.withConfigurations,
          settled.committed, flags_activeRow]
      rcases told with rfl | ⟨-, rfl⟩
      · refine ⟨.answered, ?_⟩
        unfold Database.attempt
        simp only [platformDatabase, activates]
      · refine ⟨.unacknowledged, ?_⟩
        unfold Database.attempt
        simp only [platformDatabase, activates]

/-- No activation is in progress, and the pool keeps the four queries of a new
one on one connection. -/
structure OneTransaction (state : PooledPlatform Connection) (route : Nat → Connection) :
    Prop where
  settled : state.configurations.Settled state.configurations.table
  oneConnection : ∀ n < 4, route n = route 0

/-- The queries of an activation that is one transaction. -/
theorem activation_ends {environment : String} {version : Option JsNumber}
    (one : OneTransaction state route) :
    ∃ result after,
      (queriesOf (.activateConfigVersion environment version)).runPooled
          (platformPool Connection columns) route faults 0 state =
        some (result, state.withConfigurations after) ∧
      EndsAsOne columns environment version (faults 3) state.configurations.table after
        result := by
  obtain ⟨result, after, ran, ends⟩ :=
    Adapters.runsAsOne_onOneConnection one.oneConnection one.settled
  refine ⟨result, after, ?_, ends⟩
  have asPart :=
    @Program.runPooled_embed Connection _ _ _ _ _ route faults _ _ PooledStatement.activation
      (activationPool Connection columns) (platformPool Connection columns)
      PooledPlatform.configurations PooledPlatform.withConfigurations
      (fun _ _ _ _ => rfl) (fun _ => rfl) (fun _ _ => rfl) (fun _ _ _ => rfl)
      (Adapters.PostgresControlPlaneRepository.activateConfigVersion environment version) 0
      state
  rw [ran] at asPart
  exact asPart

/-- The rest of a request to activate a version, from where the activation
ends. -/
theorem servePooled_activation {environment : String} {served : PooledServed Connection}
    {version : Option JsNumber} (asked : served.request = .activateConfig version)
    (one : OneTransaction state served.route) :
    ∃ (rest : PlatformProgram PlatformAnswer) (result : Except ApiError Unit)
      (after : ActivationStore Connection) (last : Nat),
      rest.Issues PlatformStatement.IsQuery ∧
      handlePlatform environment served.context served.request =
        .branch (.activateConfigVersion environment version) (fun _ => rest) .fail ∧
      EndsAsOne columns environment version (served.faults 3) state.configurations.table
        after result ∧
      servePooled columns environment state served =
        match result with
        | .ok _ =>
            (rest.expand queriesOf).leavesPooled (platformPool Connection columns)
              served.route served.faults last (state.withConfigurations after)
        | .error _ => state.withConfigurations after := by
  obtain ⟨rest, queries, isProgram⟩ :=
    handlePlatform_activateConfig environment served.context version
  rw [← asked] at isProgram
  obtain ⟨result, after, ran, ends⟩ :=
    @activation_ends Connection _ columns state served.route served.faults environment version
      one
  obtain ⟨last, left⟩ :=
    Program.leavesPooled_expand_branch (fun _ => rest) .fail ran
  refine ⟨rest, result, after, last, queries, isProgram, ends, ?_⟩
  unfold servePooled
  rw [isProgram, left]
  cases result with
  | ok _ => rfl
  | error error => rfl

/-- The queries of a request that activates a version are one transaction. -/
def Orderly (state : PooledPlatform Connection) (served : PooledServed Connection) : Prop :=
  ∀ version, served.request = .activateConfig version → OneTransaction state served.route

/-- Any other request does over the pool what it does over statements. -/
theorem servePooled_queries (columns : PostgresColumns) (environment : String)
    (state : PooledPlatform Connection) {served : PooledServed Connection}
    (other : ∀ version, served.request ≠ .activateConfig version) :
    ∃ deliveries,
      servePooled columns environment state served =
        state.withTables
          (servePlatform columns.toChangeColumns environment state.committed
            ⟨served.context, served.request, deliveries⟩) ∧
      (servePlatform columns.toChangeColumns environment state.committed
          ⟨served.context, served.request, deliveries⟩).configs = state.committed.configs :=
  leavesPooled_queries (handlePlatform_queries other) 0 state

/-- Over a pool that keeps activations on one connection, a request does what it
does when every statement is one step. -/
theorem servePooled_refines (columns : PostgresColumns) (environment : String)
    {state : PooledPlatform Connection} {served : PooledServed Connection}
    (orderly : Orderly state served) :
    ∃ deliveries,
      (servePooled columns environment state served).committed =
        servePlatform columns.toChangeColumns environment state.committed
          ⟨served.context, served.request, deliveries⟩ := by
  by_cases asked : ∃ version, served.request = .activateConfig version
  · obtain ⟨version, asked⟩ := asked
    obtain ⟨rest, result, after, last, queries, isProgram, ends, left⟩ :=
      @servePooled_activation Connection _ columns state environment served version asked
        (orderly version asked)
    obtain ⟨delivery, attempted⟩ := attempt_of_endsAsOne ends
    rw [left]
    unfold servePlatform
    cases result with
    | error error =>
        refine ⟨[delivery], ?_⟩
        rw [isProgram]
        simp only [Program.branch, Program.run, List.headD_cons, attempted]
    | ok answer =>
        obtain ⟨deliveries, leftBy, configs⟩ :=
          @leavesPooled_queries Connection _ columns served.route served.faults _ rest queries
            last (state.withConfigurations after)
        refine ⟨delivery :: deliveries, ?_⟩
        dsimp only
        rw [leftBy, committed_withTables configs, isProgram]
        simp only [Program.branch, Program.run, List.headD_cons, List.tail_cons, attempted]
  · have other : ∀ version, served.request ≠ .activateConfig version :=
      fun version same => asked ⟨version, same⟩
    obtain ⟨deliveries, left, configs⟩ := servePooled_queries columns environment state other
    exact ⟨deliveries, by rw [left, committed_withTables configs]⟩

end Requests

end PlatformArchitecture.Section19
