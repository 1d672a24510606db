import PlatformArchitecture.Section19.Activation

/-!
# An activation on one connection

When the pool gives every statement of the call to one connection, they form a
transaction: whatever fails, it is undone, and without a failure the call does
what `activateInTransaction` does in one step.
-/

namespace PlatformArchitecture.Section19.Adapters

open PlatformArchitecture.ControlApi
open PlatformArchitecture.Foundations

section Stages

variable {Connection : Type} [DecidableEq Connection] {columns : PostgresColumns}
  {environment : String} {version : Numeric}
  {route : Nat → Connection} {faults : Nat → Fault}
  {rows : List (ConfigurationVersion Int)} {connection : Connection}
  {store : ActivationStore Connection} {issued : Nat} {pending : List FlagUpdate}

/-- In the only open transaction an update never waits. -/
theorem judgeUpdate_alone {Reply : Type}
    {answer : List (ConfigurationVersion Int) → Reply} {written : FlagUpdate}
    (only : store.OnlyOn connection rows) :
    judgeUpdate answer (some written) connection store ⟨pending, false⟩ =
      if OneActive (FlagUpdate.applyTo (pending.foldl FlagUpdate.applyTo rows) written) then
        .accept (answer ((pending.foldl FlagUpdate.applyTo rows).filter written.selects))
          [written]
      else .reject := by
  simp only [judgeUpdate, only.anyOther, Bool.false_eq_true, if_false, only.committed]

theorem executeUpdate_opened {Reply : Type}
    {answer : List (ConfigurationVersion Int) → Reply} {update : Option FlagUpdate}
    {fault : Fault} (opened : store.transaction connection = some ⟨pending, false⟩) :
    executeUpdate answer update fault connection store =
      store.statement .internal (judgeUpdate answer update connection store) fault
        connection := by
  unfold executeUpdate TransactionalStore.pooledStatement
  rw [opened]

/-- An update in the only open transaction is added to it, or fails in it. -/
theorem executeUpdate_alone {Reply : Type}
    {answer : List (ConfigurationVersion Int) → Reply} {update : Option FlagUpdate}
    {fault : Fault} (only : store.OnlyOn connection rows)
    (opened : store.transaction connection = some ⟨pending, false⟩) :
    (∃ written, update = some written ∧
      executeUpdate answer update fault connection store =
        some
          (.ok (answer ((pending.foldl FlagUpdate.applyTo rows).filter written.selects)),
            store.withTransaction connection (some ⟨pending ++ [written], false⟩))) ∨
      ∃ after, executeUpdate answer update fault connection store =
          some (.error .internal, after) ∧
        after.OnlyOn connection rows := by
  have runs : executeUpdate answer update fault connection store ≠ none := by
    rw [executeUpdate_opened opened]
    apply TransactionalStore.statement_ne_none
    intro transaction found
    rw [opened] at found
    cases found
    cases update with
    | none => simp [judgeUpdate]
    | some written =>
        rw [judgeUpdate_alone only]
        split
        · simp
        · simp
  obtain ⟨⟨reply, after⟩, executed⟩ := Option.ne_none_iff_exists'.mp runs
  rw [executed]
  rw [executeUpdate_opened opened] at executed
  rcases TransactionalStore.statement_cases executed with
    ⟨transaction, value, effects, found, -, judged, rfl, rfl⟩ | ⟨rfl, left⟩
  · rw [opened] at found
    cases found
    cases update with
    | none => cases judged
    | some written =>
        rw [judgeUpdate_alone only] at judged
        split at judged
        · cases judged
          exact Or.inl ⟨written, rfl, rfl⟩
        · cases judged
  · rcases left with rfl | rfl | ⟨transaction, -, rfl⟩
    · exact Or.inr ⟨_, rfl, only⟩
    · exact Or.inr ⟨_, rfl, only.withTransaction _⟩
    · exact Or.inr ⟨_, rfl, only.withTransaction _⟩

/-- How a call ends that has one connection, where `commitFault` becomes of its
`COMMIT`: nothing happened and it failed, the version is not there, or it is
active and the call may not know. -/
inductive EndsAsOne (columns : PostgresColumns) (environment : String) (version : Numeric)
    (commitFault : Fault) (rows : List (ConfigurationVersion Int))
    (store : ActivationStore Connection) : Except ApiError Unit → Prop
  | failed (settled : store.Settled rows) :
      EndsAsOne columns environment version commitFault rows store (.error .internal)
  | missing {number : Int} (isNumber : version.bind columns.integer = some number)
      (absent : ¬ ∃ row ∈ rows, row.environment = environment ∧ row.version = number)
      (settled : store.Settled rows) :
      EndsAsOne columns environment version commitFault rows store
        (.error configVersionNotFound)
  | activated {number : Int} {result : Except ApiError Unit}
      (isNumber : version.bind columns.integer = some number)
      (stored : ∃ row ∈ rows, row.environment = environment ∧ row.version = number)
      (settled : store.Settled (rows.map (activeRow environment number)))
      (told : result = .ok () ∨
        commitFault = .acknowledgementLost ∧ result = .error .internal) :
      EndsAsOne columns environment version commitFault rows store result

/-- From here the call ends so. -/
abbrev RunsAsOne (columns : PostgresColumns) (environment : String) (version : Numeric)
    (route : Nat → Connection) (faults : Nat → Fault) (commitFault : Fault)
    (rows : List (ConfigurationVersion Int)) (program : ActivationProgram) (issued : Nat)
    (store : ActivationStore Connection) : Prop :=
  Program.EndsPooled (activationPool Connection columns) route faults
    (fun result after =>
      EndsAsOne columns environment version commitFault rows after result)
    program issued store

/-- The catch block ends with the error it was given, or with its own. -/
theorem endsPooled_undo {post : Except ApiError Unit → ActivationStore Connection → Prop}
    (error : ApiError)
    (settles : (store.pooledRollback ApiError.internal (faults issued)
      (route issued)).2.Settled rows)
    (rethrown : ∀ after : ActivationStore Connection, after.Settled rows →
      post (.error error) after)
    (failed : ∀ after : ActivationStore Connection, after.Settled rows →
      post (.error .internal) after) :
    Program.EndsPooled (activationPool Connection columns) route faults post
      (undoActivation error) issued store := by
  have executed : (activationPool Connection columns).execute .rollback (route issued)
      (faults issued) store =
        some ((store.pooledRollback ApiError.internal (faults issued) (route issued)).1,
          (store.pooledRollback ApiError.internal (faults issued) (route issued)).2) :=
    rfl
  rcases TransactionalStore.pooledRollback_reply ApiError.internal (faults issued)
      (route issued) store with told | lost
  · rw [told] at executed
    exact Program.endsPooled_ok executed (Program.endsPooled_fail (rethrown _ settles))
  · rw [lost] at executed
    exact Program.endsPooled_error executed (Program.endsPooled_fail (failed _ settles))

theorem applyTo_both (environment : String) (number : Int)
    (rows : List (ConfigurationVersion Int)) :
    [⟨environment, none, false⟩, ⟨environment, some number, true⟩].foldl FlagUpdate.applyTo
        rows =
      rows.map (activeRow environment number) := by
  simp only [List.foldl_cons, List.foldl_nil, FlagUpdate.applyTo, List.map_map]
  apply List.map_congr_left
  intro row _
  by_cases ofEnvironment : row.environment = environment
  · by_cases sameVersion : row.version = number
    · simp [FlagUpdate.selects, activeRow, ofEnvironment, sameVersion]
    · simp [FlagUpdate.selects, activeRow, ofEnvironment, sameVersion]
  · simp [FlagUpdate.selects, activeRow, ofEnvironment]

theorem clearUpdate_eq_some {written : FlagUpdate}
    (isUpdate : clearUpdate columns environment = some written) :
    (⟨environment, none, false⟩ : FlagUpdate) = written := by
  obtain ⟨stored, text, rest⟩ := Option.bind_eq_some_iff.mp isUpdate
  have verbatim := columns.text_verbatim text
  subst verbatim
  exact Option.some.inj rest

theorem setUpdate_eq_some {written : FlagUpdate}
    (isUpdate : setUpdate columns environment version = some written) :
    ∃ number, version.bind columns.integer = some number ∧
      (⟨environment, some number, true⟩ : FlagUpdate) = written := by
  obtain ⟨stored, text, accepted⟩ := Option.bind_eq_some_iff.mp isUpdate
  have verbatim := columns.text_verbatim text
  subst verbatim
  obtain ⟨number, isNumber, rest⟩ := Option.bind_eq_some_iff.mp accepted
  exact ⟨number, isNumber, Option.some.inj rest⟩

/-- The second update selects a row when the version is stored. -/
theorem selected_iff {number : Int} :
    ((FlagUpdate.applyTo rows ⟨environment, none, false⟩).filter
        (FlagUpdate.selects ⟨environment, some number, true⟩)) = [] ↔
      ¬ ∃ row ∈ rows, row.environment = environment ∧ row.version = number := by
  rw [List.filter_eq_nil_iff]
  unfold FlagUpdate.applyTo
  rw [List.forall_mem_map]
  push Not
  apply forall₂_congr
  intro row _
  split
  · simp [FlagUpdate.selects]
  · simp [FlagUpdate.selects]

/-- A statement that fails in the transaction leaves nothing of the call. -/
theorem runsAsOne_undo {commitFault : Fault} (only : store.OnlyOn (route issued) rows) :
    RunsAsOne columns environment version route faults commitFault rows
      (undoActivation .internal) issued store :=
  endsPooled_undo .internal (only.rollback ApiError.internal (faults issued))
    (fun _ settled => .failed settled) fun _ settled => .failed settled

/-- A `COMMIT` without an answer is followed by a `ROLLBACK` that finds nothing
to undo. -/
theorem runsAsOne_commit {number : Int}
    (isNumber : version.bind columns.integer = some number)
    (stored : ∃ row ∈ rows, row.environment = environment ∧ row.version = number)
    (only : store.OnlyOn (route issued) rows)
    (opened : store.transaction (route issued) =
      some ⟨[⟨environment, none, false⟩, ⟨environment, some number, true⟩], false⟩) :
    RunsAsOne columns environment version route faults (faults issued) rows commitActivation
      issued store := by
  have applied : store.applied FlagUpdate.applyTo
      ⟨[⟨environment, none, false⟩, ⟨environment, some number, true⟩], false⟩ =
        rows.map (activeRow environment number) := by
    change [_, _].foldl FlagUpdate.applyTo store.table = _
    rw [applyTo_both, only.committed]
  obtain ⟨reply, after, outcome, ends⟩ :=
    only.pooledCommit_ends ApiError.internal (faults issued) FlagUpdate.applyTo opened
  rw [applied] at ends
  have executed : (activationPool Connection columns).execute .commit (route issued)
      (faults issued) store = some (reply, after) :=
    congrArg some outcome
  rcases ends with ⟨settled, rfl | ⟨lost, rfl⟩⟩ | ⟨settled, rfl⟩
  · apply Program.endsPooled_ok executed
    exact Program.endsPooled_done (.activated isNumber stored settled (Or.inl rfl))
  · apply Program.endsPooled_error executed
    have silent : ∀ last : ActivationStore Connection,
        last.Settled (rows.map (activeRow environment number)) →
          EndsAsOne columns environment version (faults issued) rows last
            (.error .internal) :=
      fun _ settled => .activated isNumber stored settled (Or.inr ⟨lost, rfl⟩)
    apply endsPooled_undo .internal _ silent silent
    rw [settled.pooledRollback_eq]
    exact settled
  · apply Program.endsPooled_error executed
    apply endsPooled_undo .internal _ (fun _ settled => .failed settled)
      fun _ settled => .failed settled
    rw [settled.pooledRollback_eq]
    exact settled

theorem runsAsOne_setVersion (oneConnection : route issued = route (issued + 1))
    (only : store.OnlyOn (route issued) rows)
    (opened : store.transaction (route issued) =
      some ⟨[⟨environment, none, false⟩], false⟩) :
    RunsAsOne columns environment version route faults (faults (issued + 1)) rows
      (setVersion environment version) issued store := by
  rcases @executeUpdate_alone _ _ _ _ _ _ _
      (fun rows : List (ConfigurationVersion Int) => rows.map ConfigurationVersion.version)
      (setUpdate columns environment version) (faults issued) only opened with
    ⟨written, isUpdate, executed⟩ | ⟨after, executed, onlyAfter⟩
  · obtain ⟨number, isNumber, rfl⟩ := setUpdate_eq_some isUpdate
    apply Program.endsPooled_ok executed
    rw [oneConnection] at only ⊢
    have onlyAfter := only.withTransaction
      (some ⟨[⟨environment, none, false⟩] ++ [⟨environment, some number, true⟩], false⟩)
    unfold afterSet
    split
    · next nothing =>
        have absent :
            ¬ ∃ row ∈ rows, row.environment = environment ∧ row.version = number :=
          selected_iff.mp (List.map_eq_nil_iff.mp (List.length_eq_zero_iff.mp nothing))
        exact endsPooled_undo configVersionNotFound
          (onlyAfter.rollback ApiError.internal (faults (issued + 1)))
          (fun _ settled => .missing isNumber absent settled)
          fun _ settled => .failed settled
    · next found =>
        apply runsAsOne_commit isNumber _ onlyAfter
          (TransactionalStore.withTransaction_self _ _ _)
        by_contra absent
        apply found
        rw [List.foldl_cons, List.foldl_nil, selected_iff.mpr absent]
        rfl
  · apply Program.endsPooled_error executed
    rw [oneConnection] at onlyAfter
    exact runsAsOne_undo onlyAfter

theorem runsAsOne_clearFlags (oneConnection : route issued = route (issued + 1))
    (stillOne : route (issued + 1) = route (issued + 2))
    (only : store.OnlyOn (route issued) rows)
    (opened : store.transaction (route issued) = some ⟨[], false⟩) :
    RunsAsOne columns environment version route faults (faults (issued + 2)) rows
      (clearFlags environment version) issued store := by
  rcases @executeUpdate_alone _ _ _ _ _ _ _ (fun _ => ())
      (clearUpdate columns environment) (faults issued) only opened with
    ⟨written, isUpdate, executed⟩ | ⟨after, executed, onlyAfter⟩
  · obtain rfl := clearUpdate_eq_some isUpdate
    apply Program.endsPooled_ok executed
    rw [oneConnection] at only ⊢
    exact
      runsAsOne_setVersion stillOne (only.withTransaction _)
        (TransactionalStore.withTransaction_self _ _ _)
  · apply Program.endsPooled_error executed
    rw [oneConnection] at onlyAfter
    exact runsAsOne_undo onlyAfter

/-- On one connection the statements of the call are one, whatever fails. -/
theorem runsAsOne_onOneConnection (oneConnection : ∀ n < 4, route n = route 0)
    (settled : store.Settled rows) :
    RunsAsOne columns environment version route faults (faults 3) rows
      (PostgresControlPlaneRepository.activateConfigVersion environment version) 0 store := by
  rw [activateConfigVersion_eq]
  rcases TransactionalStore.begin_cases ApiError.internal (faults 0) (route 0) store with
    opened | failed
  · apply Program.endsPooled_ok (congrArg some opened)
    have first := oneConnection 1 (by omega)
    have second := oneConnection 2 (by omega)
    have third := oneConnection 3 (by omega)
    rw [← first]
    exact runsAsOne_clearFlags (first.trans second.symm) (second.trans third.symm)
      ((settled.onlyOn _).withTransaction _) (TransactionalStore.withTransaction_self _ _ _)
  · apply Program.endsPooled_error (congrArg some failed)
    exact Program.endsPooled_fail (.failed settled)

/-! ## All or nothing -/

/-- The call ends, and whoever looks sees all of it or nothing. -/
abbrev EndsWell (columns : PostgresColumns) (environment : String) (version : Numeric)
    (route : Nat → Connection) (faults : Nat → Fault)
    (rows : List (ConfigurationVersion Int)) (program : ActivationProgram) (issued : Nat)
    (store : ActivationStore Connection) : Prop :=
  Program.EndsPooled (activationPool Connection columns) route faults
    (SeenAllOrNothing columns environment version rows) program issued store

theorem seenNothing (settled : store.Settled rows) (error : ApiError) :
    SeenAllOrNothing columns environment version rows (.error error) store :=
  fun connection => settled.seenBy_eq FlagUpdate.applyTo connection

theorem reflagged_activeRow {number : Int} {isVersion : Int → Prop}
    (iff : ∀ stored, isVersion stored ↔ stored = number)
    (row : ConfigurationVersion Int) :
    Reflagged environment isVersion row (activeRow environment number row) := by
  by_cases ofEnvironment : row.environment = environment
  · rw [activeRow, if_pos ofEnvironment]
    exact
      { rest := rfl
        ofEnvironment := fun _ => by simp [iff]
        elsewhere := fun other => absurd ofEnvironment other }
  · rw [activeRow, if_neg ofEnvironment]
    exact
      { rest := rfl
        ofEnvironment := fun same => absurd same ofEnvironment
        elsewhere := fun _ => rfl }

/-- Both updates together activate a stored version. -/
theorem activated_of_stored {number : Int}
    (isNumber : version.bind columns.integer = some number)
    (stored : ∃ row ∈ rows, row.environment = environment ∧ row.version = number) :
    Activated environment (fun stored => version.bind columns.integer = some stored) rows
      (rows.map (activeRow environment number)) where
  present := by
    obtain ⟨row, member, ofEnvironment, rfl⟩ := stored
    exact ⟨row, member, ofEnvironment, isNumber⟩
  rows := by
    apply forall₂_map
    apply reflagged_activeRow
    intro stored
    rw [isNumber, Option.some.injEq]
    exact eq_comm

/-- With an acknowledged `COMMIT` the call keeps its promise. -/
theorem EndsAsOne.seen {commitFault : Fault} {result : Except ApiError Unit}
    (ends : EndsAsOne columns environment version commitFault rows store result)
    (acknowledged : commitFault ≠ .acknowledgementLost) :
    SeenAllOrNothing columns environment version rows result store := by
  cases ends with
  | failed settled | missing _ _ settled => exact seenNothing settled _
  | activated isNumber stored settled told =>
      rcases told with rfl | ⟨lost, -⟩
      · intro connection
        rw [settled.seenBy_eq]
        exact activated_of_stored isNumber stored
      · exact absurd lost acknowledged

theorem endsWell_onOneConnection (oneConnection : ∀ n < 4, route n = route 0)
    (acknowledged : faults 3 ≠ .acknowledgementLost) :
    EndsWell columns environment version route faults rows
      (PostgresControlPlaneRepository.activateConfigVersion environment version) 0
      (TransactionalStore.idle rows) :=
  (runsAsOne_onOneConnection oneConnection (TransactionalStore.settled_idle rows)).mono
    fun _ _ ends => ends.seen acknowledged

end Stages

/-! ## The transaction as one step -/

section Transaction

variable {Connection : Type} [DecidableEq Connection] {columns : PostgresColumns}
  {rows : List (ConfigurationVersion Int)} {connection : Connection}
  {pending : List FlagUpdate}

/-- Without a fault, an update that leaves one active version is added to the
open transaction. -/
theorem executeUpdate_inside {Reply : Type} {other : Connection}
    {answer : List (ConfigurationVersion Int) → Reply} {update : Option FlagUpdate}
    {written : FlagUpdate} (isUpdate : update = some written) (same : other = connection)
    (oneActive :
      OneActive (FlagUpdate.applyTo (pending.foldl FlagUpdate.applyTo rows) written)) :
    executeUpdate answer update .none other (.opened connection rows ⟨pending, false⟩) =
      some
        (.ok (answer ((pending.foldl FlagUpdate.applyTo rows).filter written.selects)),
          .opened connection rows ⟨pending ++ [written], false⟩) := by
  subst same isUpdate
  rw [executeUpdate_opened TransactionalStore.transaction_opened]
  unfold TransactionalStore.statement
  rw [TransactionalStore.transaction_opened]
  simp only [Bool.false_eq_true, if_false,
    judgeUpdate_alone TransactionalStore.onlyOn_opened, if_pos oneActive,
    TransactionalStore.withTransaction_opened]

theorem executeUpdate_refused {Reply : Type}
    {answer : List (ConfigurationVersion Int) → Reply} {update : Option FlagUpdate}
    (noUpdate : update = none) :
    executeUpdate answer update .none connection (.opened connection rows ⟨pending, false⟩) =
      some (.error .internal, .opened connection rows ⟨pending, true⟩) := by
  subst noUpdate
  rw [executeUpdate_opened TransactionalStore.transaction_opened]
  unfold TransactionalStore.statement
  rw [TransactionalStore.transaction_opened]
  simp only [Bool.false_eq_true, if_false, judgeUpdate,
    TransactionalStore.withTransaction_opened]

/-- Clearing flags makes no second version active. -/
theorem oneActive_cleared (environment : String) (oneActive : OneActive rows) :
    OneActive (FlagUpdate.applyTo rows ⟨environment, none, false⟩) := by
  have wasActive : ∀ row : ConfigurationVersion Int,
      (if FlagUpdate.selects ⟨environment, none, false⟩ row then { row with active := false }
        else row).active = true → row.active = true := by
    intro row active
    split at active
    · cases active
    · exact active
  have sameEnvironment : ∀ row : ConfigurationVersion Int,
      (if FlagUpdate.selects ⟨environment, none, false⟩ row then { row with active := false }
        else row).environment = row.environment := by
    intro row
    split
    · rfl
    · rfl
  refine List.pairwise_map.mpr (oneActive.imp ?_)
  intro first second apart firstActive secondActive
  rw [sameEnvironment, sameEnvironment]
  exact apart (wasActive first firstActive) (wasActive second secondActive)

section Step

variable {database : ControlPlaneDatabase} {environment : String} {version : Numeric}

/-- The answer and the tables after one step that activates a version. -/
abbrev activationStep (columns : PostgresColumns) (database : ControlPlaneDatabase)
    (environment : String) (version : Numeric) : Except ApiError Unit × ControlPlaneDatabase :=
  PostgresControlPlaneRepository.writes database
    (PostgresControlPlaneRepository.activateInTransaction columns database environment
      version)

/-- The call ends as the step does. -/
abbrev EndsAsStep (columns : PostgresColumns) (database : ControlPlaneDatabase)
    (environment : String) (version : Numeric) (connection : Connection)
    (program : ActivationProgram) (issued : Nat) (store : ActivationStore Connection) :
    Prop :=
  Program.EndsPooled (activationPool Connection columns) (fun _ => connection)
    (fun _ => .none)
    (fun result after =>
      result = (activationStep columns database environment version).1 ∧
        after.Settled (activationStep columns database environment version).2.configs.rows)
    program issued store

theorem endsAsStep_undo {error : ApiError} {transaction : Transaction FlagUpdate}
    {issued : Nat}
    (step : activationStep columns database environment version = (.error error, database)) :
    EndsAsStep columns database environment version connection (undoActivation error) issued
      (.opened connection database.configs.rows transaction) := by
  obtain ⟨after, executed, settled⟩ :=
    @TransactionalStore.rollback_opened Connection _ _ ApiError _ connection
      database.configs.rows connection transaction rfl .internal
  apply Program.endsPooled_ok (congrArg some executed)
  apply Program.endsPooled_fail
  rw [step]
  exact ⟨rfl, settled⟩

theorem endsAsStep_afterSet {number : Int} {issued : Nat}
    (text : columns.text environment = some environment)
    (isNumber : version.bind columns.integer = some number) :
    EndsAsStep columns database environment version connection
      (afterSet (((FlagUpdate.applyTo database.configs.rows ⟨environment, none, false⟩).filter
        (FlagUpdate.selects ⟨environment, some number, true⟩)).map
          ConfigurationVersion.version))
      issued
      (.opened connection database.configs.rows
        ⟨[⟨environment, none, false⟩, ⟨environment, some number, true⟩], false⟩) := by
  unfold afterSet
  cases found : database.configs.rows.any fun row =>
      decide (row.environment = environment) && decide (row.version = number) with
  | false =>
      have absent : ¬ ∃ row ∈ database.configs.rows,
          row.environment = environment ∧ row.version = number := by
        simpa using found
      rw [selected_iff.mpr absent, if_pos (by rfl)]
      apply endsAsStep_undo
      rw [activationStep,
        PostgresControlPlaneRepository.activateInTransaction_eq text isNumber, found]
      rfl
  | true =>
      have selected : ((FlagUpdate.applyTo database.configs.rows
          ⟨environment, none, false⟩).filter
            (FlagUpdate.selects ⟨environment, some number, true⟩)).map
              ConfigurationVersion.version ≠ [] := by
        intro nothing
        rw [List.map_eq_nil_iff, selected_iff] at nothing
        apply nothing
        simpa using found
      have step : activationStep columns database environment version =
          (.ok (), { database with
            configs := database.configs.activate environment number }) := by
        rw [activationStep,
          PostgresControlPlaneRepository.activateInTransaction_eq text isNumber, found]
        rfl
      rw [if_neg fun none => selected (List.length_eq_zero_iff.mp none)]
      obtain ⟨after, executed, -, settled⟩ :=
        @TransactionalStore.commit_opened Connection _ _ ApiError _ connection
          database.configs.rows connection
          ⟨[⟨environment, none, false⟩, ⟨environment, some number, true⟩], false⟩ rfl
          .internal FlagUpdate.applyTo
      apply Program.endsPooled_ok (congrArg some executed)
      apply Program.endsPooled_done
      rw [step]
      refine ⟨rfl, ?_⟩
      rw [if_neg Bool.false_ne_true, applyTo_both] at settled
      exact settled

theorem endsAsStep_setVersion {issued : Nat}
    (text : columns.text environment = some environment) :
    EndsAsStep columns database environment version connection
      (setVersion environment version) issued
      (.opened connection database.configs.rows ⟨[⟨environment, none, false⟩], false⟩) := by
  cases isNumber : version.bind columns.integer with
  | none =>
      have noUpdate : setUpdate columns environment version = none := by
        simp [setUpdate, text, isNumber]
      apply Program.endsPooled_error (executeUpdate_refused noUpdate)
      apply endsAsStep_undo
      simp [activationStep, PostgresControlPlaneRepository.writes,
        PostgresControlPlaneRepository.activateInTransaction, text, isNumber, accepted]
  | some number =>
      have oneActive := (database.configs.activate environment number).oneActive
      change OneActive (database.configs.rows.map (activeRow environment number)) at oneActive
      rw [← applyTo_both] at oneActive
      have isUpdate : setUpdate columns environment version =
          some ⟨environment, some number, true⟩ := by
        simp [setUpdate, text, isNumber]
      refine Program.endsPooled_ok (executeUpdate_inside isUpdate rfl oneActive) ?_
      exact endsAsStep_afterSet text isNumber

end Step

/-- On one connection the statements of the call do together what
`activateInTransaction` does in one step. -/
theorem activateInTransaction_runs (database : ControlPlaneDatabase) (environment : String)
    (version : Numeric) (connection : Connection) :
    EndsAsStep columns database environment version connection
      (PostgresControlPlaneRepository.activateConfigVersion environment version) 0
      (TransactionalStore.idle database.configs.rows) := by
  rw [activateConfigVersion_eq]
  apply Program.endsPooled_ok (congrArg some (TransactionalStore.begin_idle _))
  cases text : columns.text environment with
  | none =>
      have noUpdate : clearUpdate columns environment = none := by
        simp [clearUpdate, text]
      apply Program.endsPooled_error (executeUpdate_refused noUpdate)
      apply endsAsStep_undo
      simp [activationStep, PostgresControlPlaneRepository.writes,
        PostgresControlPlaneRepository.activateInTransaction, text, accepted]
  | some stored =>
      have verbatim := columns.text_verbatim text
      subst verbatim
      have isUpdate : clearUpdate columns stored = some ⟨stored, none, false⟩ := by
        simp [clearUpdate, text]
      have oneActive := oneActive_cleared stored database.configs.oneActive
      refine Program.endsPooled_ok (executeUpdate_inside isUpdate rfl oneActive) ?_
      exact endsAsStep_setVersion text

end Transaction

end PlatformArchitecture.Section19.Adapters
