import PlatformArchitecture.Section19.ActivationTransaction

/-!
# An activation on several connections

When a statement of the call reaches another connection, it commits by itself,
waits for the transaction of its own call, or leaves that transaction open.
-/

namespace PlatformArchitecture.Section19.Adapters

open PlatformArchitecture.ControlApi
open PlatformArchitecture.Foundations

section Stages

variable {Connection : Type} [DecidableEq Connection] {columns : PostgresColumns}
  {route : Nat → Connection} {rows : List (ConfigurationVersion Int)}
  {connection : Connection} {pending : List FlagUpdate}

/-- An update on a connection without a transaction commits by itself, when the
open transaction has locked none of its rows. -/
theorem executeUpdate_elsewhere {Reply : Type} {other : Connection}
    {answer : List (ConfigurationVersion Int) → Reply} {update : Option FlagUpdate}
    {written : FlagUpdate} (isUpdate : update = some written) (different : other ≠ connection)
    (free : written.meets rows ⟨pending, false⟩ = false)
    (oneActive : OneActive (FlagUpdate.applyTo rows written)) :
    executeUpdate answer update .none other (.opened connection rows ⟨pending, false⟩) =
      some
        (.ok (answer (rows.filter written.selects)),
          .opened connection (FlagUpdate.applyTo rows written) ⟨pending, false⟩) := by
  subst isUpdate
  have judged : judgeUpdate answer (some written) other
      (.opened connection rows ⟨pending, false⟩) ⟨[], false⟩ =
        .accept (answer (rows.filter written.selects)) [written] := by
    simp only [judgeUpdate, TransactionalStore.table_opened,
      TransactionalStore.anyOther_opened different, free, Bool.false_eq_true, if_false,
      List.foldl_nil]
    exact if_pos oneActive
  unfold executeUpdate TransactionalStore.pooledStatement
  rw [TransactionalStore.onlyOn_opened.alone other different, judged]
  rfl

/-- It waits for ever for a row that the open transaction has locked. -/
theorem executeUpdate_waits {Reply : Type} {other : Connection}
    {answer : List (ConfigurationVersion Int) → Reply} {update : Option FlagUpdate}
    {written : FlagUpdate} (isUpdate : update = some written) (different : other ≠ connection)
    (locked : written.meets rows ⟨pending, false⟩ = true) :
    executeUpdate answer update .none other (.opened connection rows ⟨pending, false⟩) =
      none := by
  subst isUpdate
  have judged : judgeUpdate answer (some written) other
      (.opened connection rows ⟨pending, false⟩) ⟨[], false⟩ = .wait := by
    simp only [judgeUpdate, TransactionalStore.table_opened,
      TransactionalStore.anyOther_opened different, locked, if_true]
  unfold executeUpdate TransactionalStore.pooledStatement
  rw [TransactionalStore.onlyOn_opened.alone other different, judged]

def sampleVersion (version : Int) (active : Bool) : ConfigurationVersion Int where
  version
  environment := "production"
  configuration := .obj []
  createdBy := "operator"
  createdAt := "2026-01-01T00:00:00.000Z"
  active

theorem setUpdate_production {number : Int} (safe : number.natAbs ≤ 9007199254740991) :
    setUpdate columns "production" (some (.finite number)) =
      some ⟨"production", some number, true⟩ := by
  unfold setUpdate
  rw [columns.text_plain "production" (by decide)]
  change ((columns.integer (.finite number)).bind fun stored => some _) = _
  rw [columns.integer_safe number safe]
  rfl

theorem clearUpdate_production :
    clearUpdate columns "production" = some ⟨"production", none, false⟩ := by
  unfold clearUpdate
  rw [columns.text_plain "production" (by decide)]
  rfl

/-- Once the first update has committed by itself, the flags stay cleared. -/
theorem staysCleared (other : route 1 ≠ route 0) :
    Program.EndsPooled (activationPool Connection columns) route (fun _ => .none)
      (fun result after => result = .error configVersionNotFound ∧
        after.OnlyOn (route 0) [sampleVersion 1 false])
      (PostgresControlPlaneRepository.activateConfigVersion "production"
        (some (.finite (2 : Int)))) 0
      (TransactionalStore.idle [sampleVersion 1 true]) := by
  have cleared := @executeUpdate_elsewhere Connection _ [sampleVersion 1 true] (route 0) []
    Unit (route 1) (fun _ => ()) _ _ (@clearUpdate_production columns) other (by decide)
    (by decide)
  -- The second update selects no row, inside the transaction or outside.
  have unset : ∃ pending,
      (activationPool Connection columns).execute
          (.setActive "production" (some (.finite (2 : Int)))) (route 2) .none
          (.opened (route 0) [sampleVersion 1 false] ⟨[], false⟩) =
        some (.ok [], .opened (route 0) [sampleVersion 1 false] ⟨pending, false⟩) := by
    have isUpdate := @setUpdate_production columns 2 (by decide)
    by_cases same : route 2 = route 0
    · exact ⟨_, executeUpdate_inside isUpdate same (by decide)⟩
    · exact ⟨_, executeUpdate_elsewhere isUpdate same (by decide) (by decide)⟩
  obtain ⟨pending, executed⟩ := unset
  obtain ⟨after, rolledBack, only⟩ :=
    (@TransactionalStore.onlyOn_opened _ _ _ _ (route 0) [sampleVersion 1 false]
      (⟨pending, false⟩ : Transaction FlagUpdate)).answeredRollback ApiError.internal
        (route 3)
  rw [activateConfigVersion_eq]
  apply Program.endsPooled_ok (congrArg some (TransactionalStore.begin_idle _))
  apply Program.endsPooled_ok cleared
  apply Program.endsPooled_ok executed
  apply Program.endsPooled_ok (congrArg some rolledBack)
  exact Program.endsPooled_fail ⟨rfl, only⟩

/-- The second update waits for the rows that the first one has locked. -/
theorem waitsForItself (same : route 1 = route 0) (other : route 2 ≠ route 0) :
    (PostgresControlPlaneRepository.activateConfigVersion "production"
        (some (.finite (1 : Int)))).runPooled (activationPool Connection columns) route
      (fun _ => .none) 0 (TransactionalStore.idle [sampleVersion 1 false]) = none := by
  have cleared := @executeUpdate_inside Connection _ [sampleVersion 1 false] (route 0) []
    Unit (route 1) (fun _ => ()) _ _ (@clearUpdate_production columns) same (by decide)
  have waits := @executeUpdate_waits Connection _ [sampleVersion 1 false] (route 0)
    [⟨"production", none, false⟩] _ (route 2)
    (fun rows : List (ConfigurationVersion Int) => rows.map ConfigurationVersion.version)
    _ _ (@setUpdate_production columns 1 (by decide)) other (by decide)
  rw [activateConfigVersion_eq,
    Program.runPooled_branch_ok (congrArg some (TransactionalStore.begin_idle _)),
    clearFlags, Program.runPooled_branch_ok cleared, setVersion]
  exact Program.runPooled_branch_waits waits

/-- After a `ROLLBACK` on another connection the transaction is still open. -/
theorem staysOpen (first : route 1 = route 0) (second : route 2 = route 0)
    (other : route 3 ≠ route 0) :
    Program.EndsPooled (activationPool Connection columns) route (fun _ => .none)
      (fun result after => result = .error configVersionNotFound ∧
        after = .opened (route 0) [sampleVersion 1 true]
          ⟨[⟨"production", none, false⟩, ⟨"production", some 2, true⟩], false⟩)
      (PostgresControlPlaneRepository.activateConfigVersion "production"
        (some (.finite (2 : Int)))) 0
      (TransactionalStore.idle [sampleVersion 1 true]) := by
  have cleared := @executeUpdate_inside Connection _ [sampleVersion 1 true] (route 0) []
    Unit (route 1) (fun _ => ()) _ _ (@clearUpdate_production columns) first (by decide)
  have unset := @executeUpdate_inside Connection _ [sampleVersion 1 true] (route 0)
    [⟨"production", none, false⟩] _ (route 2)
    (fun rows : List (ConfigurationVersion Int) => rows.map ConfigurationVersion.version)
    _ _ (@setUpdate_production columns 2 (by decide)) second (by decide)
  have untouched : (TransactionalStore.opened (route 0) [sampleVersion 1 true]
      ⟨[⟨"production", none, false⟩, ⟨"production", some 2, true⟩], false⟩ :
        ActivationStore Connection).pooledRollback ApiError.internal .none (route 3) =
      (.ok (), .opened (route 0) [sampleVersion 1 true]
        ⟨[⟨"production", none, false⟩, ⟨"production", some 2, true⟩], false⟩) := by
    unfold TransactionalStore.pooledRollback
    rw [TransactionalStore.onlyOn_opened.alone (route 3) other]
  rw [activateConfigVersion_eq]
  apply Program.endsPooled_ok (congrArg some (TransactionalStore.begin_idle _))
  apply Program.endsPooled_ok cleared
  apply Program.endsPooled_ok unset
  apply Program.endsPooled_ok (congrArg some untouched)
  exact Program.endsPooled_fail ⟨rfl, rfl⟩

/-- A `COMMIT` whose acknowledgement is lost has happened, and the call throws. -/
theorem activatesAndThrows (oneConnection : ∀ n < 4, route n = route 0) :
    Program.EndsPooled (activationPool Connection columns) route
      (fun n => if n = 3 then .acknowledgementLost else .none)
      (fun result after => result = .error .internal ∧ after.Settled [sampleVersion 1 true])
      (PostgresControlPlaneRepository.activateConfigVersion "production"
        (some (.finite (1 : Int)))) 0
      (TransactionalStore.idle [sampleVersion 1 false]) := by
  have cleared := @executeUpdate_inside Connection _ [sampleVersion 1 false] (route 0) []
    Unit (route 1) (fun _ => ()) _ _ (@clearUpdate_production columns)
    (oneConnection 1 (by omega)) (by decide)
  have activated := @executeUpdate_inside Connection _ [sampleVersion 1 false] (route 0)
    [⟨"production", none, false⟩] _ (route 2)
    (fun rows : List (ConfigurationVersion Int) => rows.map ConfigurationVersion.version)
    _ _ (@setUpdate_production columns 1 (by decide)) (oneConnection 2 (by omega)) (by decide)
  obtain ⟨after, -, executed, settled⟩ :=
    @TransactionalStore.commit_opened Connection _ _ ApiError _ (route 0)
      [sampleVersion 1 false] (route 3)
      ⟨[⟨"production", none, false⟩, ⟨"production", some 1, true⟩], false⟩
      (oneConnection 3 (by omega)) .internal FlagUpdate.applyTo
  have rolledBack : after.pooledRollback ApiError.internal .none (route 4) = (.ok (), after) := by
    unfold TransactionalStore.pooledRollback
    rw [settled.closed]
  rw [activateConfigVersion_eq]
  apply Program.endsPooled_ok (congrArg some (TransactionalStore.begin_idle _))
  apply Program.endsPooled_ok cleared
  apply Program.endsPooled_ok activated
  apply Program.endsPooled_error (congrArg some executed)
  apply Program.endsPooled_ok (congrArg some rolledBack)
  exact Program.endsPooled_fail ⟨rfl, settled⟩

end Stages

/-! ## When the promise is kept -/

/-- The connection of each query of a call, and whether the acknowledgement of
its fourth query, the `COMMIT`, may be lost. -/
structure PoolBehaviour (Connection : Type) where
  route : Nat → Connection
  losesCommit : Bool

namespace PoolBehaviour

variable {Connection : Type} [DecidableEq Connection]

def Allows (pool : PoolBehaviour Connection) (faults : Nat → Fault) : Prop :=
  faults 3 = .acknowledgementLost → pool.losesCommit = true

/-- Every call over the pool is all or nothing. -/
def KeepsPromise (columns : PostgresColumns) (pool : PoolBehaviour Connection) : Prop :=
  ∀ rows environment version faults, pool.Allows faults →
    EndsWell columns environment version pool.route faults rows
      (PostgresControlPlaneRepository.activateConfigVersion environment version) 0
      (TransactionalStore.idle rows)

/-- The pool treats the call as a transaction needs it. -/
structure OneConnection (pool : PoolBehaviour Connection) : Prop where
  route : ∀ n < 4, pool.route n = pool.route 0
  acknowledged : pool.losesCommit = false

variable {columns : PostgresColumns} {pool : PoolBehaviour Connection}

theorem route_of_keepsPromise (keeps : pool.KeepsPromise columns) :
    ∀ n < 4, pool.route n = pool.route 0 := by
  have faultless : pool.Allows fun _ => .none := fun lost => by cases lost
  have first : pool.route 1 = pool.route 0 := by
    by_contra other
    obtain ⟨result, after, seen, rfl, only⟩ :=
      Program.EndsPooled.both (keeps _ _ _ _ faultless) (@staysCleared _ _ columns _ other)
    have unchanged := seen (pool.route 1)
    unfold TransactionalStore.seenBy at unchanged
    rw [only.alone _ other, only.committed] at unchanged
    cases unchanged
  have second : pool.route 2 = pool.route 0 := by
    by_contra other
    obtain ⟨result, after, ran, _⟩ :=
      keeps [sampleVersion 1 false] "production" (some (.finite (1 : Int))) _ faultless
    rw [waitsForItself first other] at ran
    cases ran
  have third : pool.route 3 = pool.route 0 := by
    by_contra other
    obtain ⟨result, after, seen, rfl, rfl⟩ :=
      Program.EndsPooled.both (keeps _ _ _ _ faultless)
        (@staysOpen _ _ columns _ first second other)
    have unchanged := seen (pool.route 0)
    unfold TransactionalStore.seenBy at unchanged
    rw [TransactionalStore.transaction_opened] at unchanged
    cases unchanged
  intro n small
  obtain rfl | rfl | rfl | rfl : n = 0 ∨ n = 1 ∨ n = 2 ∨ n = 3 := by omega
  · rfl
  · exact first
  · exact second
  · exact third

theorem acknowledged_of_keepsPromise (keeps : pool.KeepsPromise columns) :
    pool.losesCommit = false := by
  cases loses : pool.losesCommit with
  | false => rfl
  | true =>
      obtain ⟨result, after, seen, rfl, settled⟩ :=
        Program.EndsPooled.both (keeps _ _ _ _ fun _ => loses)
          (@activatesAndThrows _ _ columns _ (route_of_keepsPromise keeps))
      have unchanged := seen (pool.route 0)
      rw [settled.seenBy_eq] at unchanged
      cases unchanged

theorem keepsPromise_iff : pool.KeepsPromise columns ↔ pool.OneConnection := by
  constructor
  · intro keeps
    exact
      { route := route_of_keepsPromise keeps
        acknowledged := acknowledged_of_keepsPromise keeps }
  · intro oneConnection rows environment version faults allowed
    apply endsWell_onOneConnection oneConnection.route
    intro lost
    have loses := allowed lost
    rw [oneConnection.acknowledged] at loses
    cases loses

end PoolBehaviour

/-- In memory an activation is all or nothing exactly when the version is
stored or nothing is active; over a pool, exactly when its transaction runs on
one connection and its `COMMIT` is acknowledged. -/
theorem allOrNothing_iff (columns : PostgresColumns) :
    (∀ (repository : InMemoryControlPlaneRepository) (environment : String)
        (version : Numeric),
      AllOrNothing environment (fun stored => strictEquals stored version = true)
          repository.configs (repository.activateConfigVersion environment version).1
          (repository.activateConfigVersion environment version).2.configs ↔
        repository.StoredOrNoneActive environment version) ∧
      ∀ (Connection : Type) [DecidableEq Connection] (pool : PoolBehaviour Connection),
        pool.KeepsPromise columns ↔ pool.OneConnection := by
  constructor
  · intro repository environment version
    exact InMemoryControlPlaneRepository.activateConfigVersion_allOrNothing_iff
  · intro Connection _ pool
    exact PoolBehaviour.keepsPromise_iff

def sampleRepository : InMemoryControlPlaneRepository where
  capabilities := []
  dependencies := []
  changes := []
  configs :=
    [{ version := some (.finite 1)
       environment := "production"
       configuration := .obj []
       createdBy := "operator"
       createdAt := "2026-01-01T00:00:00.000Z"
       active := true }]
  health := []
  audit := []

/-- Activating a version that does not exist throws and leaves no version
active: in memory, and over a pool that uses a new connection for every
query. -/
theorem missingVersionClearsFlags :
    ¬ AllOrNothing "production" (fun stored => strictEquals stored (some (.finite 2)) = true)
        sampleRepository.configs
        (sampleRepository.activateConfigVersion "production" (some (.finite 2))).1
        (sampleRepository.activateConfigVersion "production" (some (.finite 2))).2.configs ∧
      ¬ EndsWell PostgresColumns.verbatim "production" (some (.finite (2 : Int))) id
          (fun _ => .none) [sampleVersion 1 true]
          (PostgresControlPlaneRepository.activateConfigVersion "production"
            (some (.finite (2 : Int)))) 0
          (TransactionalStore.idle [sampleVersion 1 true]) := by
  constructor
  · intro unchanged
    cases unchanged
  · intro ends
    obtain ⟨result, after, seen, rfl, only⟩ :=
      Program.EndsPooled.both ends
        (@staysCleared _ _ PostgresColumns.verbatim id (by decide))
    have unchanged := seen 1
    unfold TransactionalStore.seenBy at unchanged
    rw [only.alone 1 (by decide), only.committed] at unchanged
    cases unchanged

end PlatformArchitecture.Section19.Adapters
