import PlatformArchitecture.Foundations.Run
import PlatformArchitecture.Postgres.Migrator

/-!
# Concurrent runs of the migrator

The program of `migrate` as the stages a run passes, what is known of a run at
each stage, and the invariant of the tables.  A run that works on a file has
found or committed every earlier one, and the primary key lets only one run
commit it, so that files are committed in order and once.
-/

namespace PlatformArchitecture.Postgres

open PlatformArchitecture.Foundations

/-! ## The rest of the program at each stage -/

private def undoMigration (error : MigrationError) : MigrationProgram :=
  .branch .rollback (fun _ => .fail error) .fail

private def commitMigration (rest : List String) : MigrationProgram :=
  .branch .commit (fun _ => migrateFiles rest) undoMigration

private def insertMigration (file : String) (rest : List String) : MigrationProgram :=
  .branch (.insertVersion file) (fun _ => commitMigration rest) undoMigration

private def executeMigration (file sql : String) (rest : List String) : MigrationProgram :=
  .branch (.execute file sql) (fun _ => insertMigration file rest) undoMigration

private def openMigration (file sql : String) (rest : List String) : MigrationProgram :=
  .branch .begin (fun _ => executeMigration file sql rest) undoMigration

private def connectMigration (file sql : String) (rest : List String) : MigrationProgram :=
  .branch .connect (fun _ => openMigration file sql rest) .fail

private def readMigration (file : String) (rest : List String) : MigrationProgram :=
  .branch (.readFile file) (fun sql => connectMigration file sql rest) .fail

private theorem migrateFiles_cons (file : String) (rest : List String) :
    migrateFiles (file :: rest) =
      .branch (.selectVersion file)
        (fun rowCount => if rowCount ≠ 0 then migrateFiles rest else readMigration file rest)
        .fail := by
  have transaction (sql : String) :
      (applyMigration file sql >>= fun _ => migrateFiles rest) =
        openMigration file sql rest := by
    simp only [applyMigration, awaitMigration, Program.call, Program.branch_orElse,
      Program.branch_bind, Program.throw_eq, Program.done_bind, Program.fail_bind,
      Program.done_orElse, Program.fail_orElse]
    rfl
  rw [migrateFiles]
  simp only [awaitMigration, Program.call_bind, transaction]
  rfl

/-- Where a run stands: what it still has to do, and the file it works on. -/
inductive MigrationStage where
  | creating
  | listing
  | checking (rest : List String)
  | reading (file : String) (rest : List String)
  | connecting (file sql : String) (rest : List String)
  | opening (file sql : String) (rest : List String)
  | executing (file sql : String) (rest : List String)
  | inserting (file sql : String) (rest : List String)
  | committing (file sql : String) (rest : List String)
  | undoing (error : MigrationError)
  | threw (error : MigrationError)

/-- What is left of the program of a run at a stage. -/
def MigrationStage.program : MigrationStage → MigrationProgram
  | .creating => migrate
  | .listing =>
      .branch .readdir (fun entries => migrateFiles (migrationFiles entries)) .fail
  | .checking rest => migrateFiles rest
  | .reading file rest => readMigration file rest
  | .connecting file sql rest => connectMigration file sql rest
  | .opening file sql rest => openMigration file sql rest
  | .executing file sql rest => executeMigration file sql rest
  | .inserting file _sql rest => insertMigration file rest
  | .committing _file _sql rest => commitMigration rest
  | .undoing error => undoMigration error
  | .threw error => .fail error

private theorem migrate_eq :
    migrate = .branch .createTable (fun _ => MigrationStage.listing.program) .fail := by
  simp only [migrate, awaitMigration, Program.call_bind]
  rfl

/-! ## The order of the files -/

/-- What is done of a plan is all that comes before the first item that is
not. -/
theorem eq_of_first_undone {Item : Type} {plan done before rest : List Item} {item : Item}
    (planned : plan = before ++ item :: rest) (distinct : plan.Nodup) (started : done <+: plan)
    (reached : ∀ earlier ∈ before, earlier ∈ done) (undone : item ∉ done) :
    done = before := by
  have isPrefix : before <+: plan := ⟨item :: rest, planned.symm⟩
  rcases List.prefix_or_prefix_of_prefix started isPrefix with ⟨missing, rfl⟩ | ⟨extra, rfl⟩
  · cases missing with
    | nil => exact (List.append_nil done).symm
    | cons first _others =>
        have isDone : first ∈ done := reached first (by simp)
        have apart := (List.nodup_append.mp (isPrefix.sublist.nodup distinct)).2.2
        exact absurd rfl (apart first isDone first List.mem_cons_self)
  · cases extra with
    | nil => exact List.append_nil before
    | cons first _others =>
        obtain ⟨behind, whole⟩ := started
        rw [planned, List.append_assoc, List.append_cancel_left_eq, List.cons_append,
          List.cons.injEq] at whole
        exact absurd (by simp [whole.1]) undone

theorem migrationFiles_nodup (directory : MigrationDirectory) :
    (migrationFiles directory.entries).Nodup :=
  (List.perm_insertionSort _ _).nodup_iff.mpr (directory.nodup.filter _)

/-! ## The invariant -/

section Invariant

variable {Pid : Type} (directory : MigrationDirectory)

/-- All files before those that are left are committed. -/
def Reached (state : MigrationState Pid) (rest : List String) : Prop :=
  ∃ before, migrationFiles directory.entries = before ++ rest ∧
    ∀ version ∈ before, version ∈ state.table.versions

section Reached

variable {directory} {state after : MigrationState Pid} {rest : List String}

theorem Reached.mono (reached : Reached directory state rest)
    (grows : ∀ version ∈ state.table.versions, version ∈ after.table.versions) :
    Reached directory after rest := by
  obtain ⟨before, planned, committed⟩ := reached
  exact ⟨before, planned, fun version member => grows version (committed version member)⟩

/-- A file that is committed is no longer left. -/
theorem Reached.next {file : String}
    (reached : Reached directory state (file :: rest))
    (committed : file ∈ state.table.versions) : Reached directory state rest := by
  obtain ⟨before, planned, earlier⟩ := reached
  refine ⟨before ++ [file], by rw [planned, List.append_assoc]; rfl, ?_⟩
  intro version member
  rcases List.mem_append.mp member with isEarlier | isFile
  · exact earlier version isEarlier
  · rwa [List.mem_singleton.mp isFile]

end Reached

variable [DecidableEq Pid]

/-- The rows are those of the first files, and the SQL of just these files has
taken effect. -/
structure MigrationInvariant (state : MigrationState Pid) : Prop where
  unique : state.UniqueKeys MigrationTables.versions versionKeys
  inOrder : state.table.versions <+: migrationFiles directory.entries
  once : state.table.applied =
    state.table.versions.map fun version => (version, directory.contents version)

/-- What the transaction of a run has done, if it is still there. -/
def HasDone (state : MigrationState Pid) (pid : Pid) (effects : List MigrationEffect) : Prop :=
  ∀ opened ∈ state.transaction pid, opened.aborted = false ∧ opened.pending = effects

/-- What is known of a run at a stage. -/
def MigrationStage.Holds (pid : Pid) (state : MigrationState Pid) : MigrationStage → Prop
  | .creating | .listing | .undoing _ | .threw _ => True
  | .checking rest => Reached directory state rest
  | .reading file rest => Reached directory state (file :: rest)
  | .connecting file sql rest | .opening file sql rest =>
      Reached directory state (file :: rest) ∧ sql = directory.contents file
  | .executing file sql rest =>
      Reached directory state (file :: rest) ∧ sql = directory.contents file ∧
        HasDone state pid []
  | .inserting file sql rest =>
      Reached directory state (file :: rest) ∧ sql = directory.contents file ∧
        HasDone state pid [.applied file sql]
  | .committing file sql rest =>
      Reached directory state (file :: rest) ∧ sql = directory.contents file ∧
        HasDone state pid [.applied file sql, .inserted file]

/-- The rest of the program of a run is that of a stage whose facts hold. -/
def AtMigrationStage (pid : Pid) (state : MigrationState Pid) (program : MigrationProgram) :
    Prop :=
  ∃ stage : MigrationStage, stage.program = program ∧ stage.Holds directory pid state

variable {directory} {state after : MigrationState Pid} {pid other : Pid}

/-- The facts of a stage survive when rows are added and the transaction of the
run is the same or gone. -/
theorem MigrationStage.Holds.mono
    (transaction : ∀ opened ∈ after.transaction pid, opened ∈ state.transaction pid)
    (grows : ∀ version ∈ state.table.versions, version ∈ after.table.versions)
    {stage : MigrationStage} (holds : stage.Holds directory pid state) :
    stage.Holds directory pid after := by
  cases stage with
  | creating | listing | undoing _ | threw _ => trivial
  | checking rest => exact Reached.mono holds grows
  | reading file rest => exact Reached.mono holds grows
  | connecting file sql rest | opening file sql rest => exact ⟨holds.1.mono grows, holds.2⟩
  | executing file sql rest | inserting file sql rest | committing file sql rest =>
      exact ⟨holds.1.mono grows, holds.2.1,
        fun opened found => holds.2.2 opened (transaction opened found)⟩

/-- What other runs rely on: rows stay, and a run touches no transaction but
its own. -/
structure MigrationFrame (pid : Pid) (before after : MigrationState Pid) : Prop where
  versions : ∀ version ∈ before.table.versions, version ∈ after.table.versions
  transactions : TransactionalStore.SameElsewhere pid before after

theorem MigrationFrame.of_sameTable (sameTable : after.table = state.table)
    (elsewhere : TransactionalStore.SameElsewhere pid state after) :
    MigrationFrame pid state after :=
  ⟨fun version member => by rwa [sameTable], elsewhere⟩

theorem MigrationFrame.refl : MigrationFrame pid state state :=
  ⟨fun _version member => member, fun _other _different => rfl⟩

theorem AtMigrationStage.frame (frame : MigrationFrame pid state after) (different : other ≠ pid)
    {program : MigrationProgram} (standing : AtMigrationStage directory other state program) :
    AtMigrationStage directory other after program := by
  obtain ⟨stage, same, holds⟩ := standing
  refine ⟨stage, same, holds.mono ?_ frame.versions⟩
  intro opened found
  rwa [frame.transactions other different] at found

theorem AtMigrationStage.disconnect {program : MigrationProgram}
    (standing : AtMigrationStage directory other state program) :
    AtMigrationStage directory other (state.withTransaction pid none) program := by
  obtain ⟨stage, same, holds⟩ := standing
  refine ⟨stage, same, holds.mono ?_ ?_⟩
  · intro opened found
    by_cases own : other = pid
    · subst other
      simp at found
    · rwa [TransactionalStore.withTransaction_other _ own] at found
  · intro version member
    exact member

/-! ## What each statement does -/

/-- Only the transaction of a run changes. -/
theorem MigrationInvariant.withTransaction (holds : MigrationInvariant directory state)
    {transaction : Option (Transaction MigrationEffect)}
    (unique : (state.withTransaction pid transaction).UniqueKeys MigrationTables.versions
      versionKeys) :
    MigrationInvariant directory (state.withTransaction pid transaction) :=
  ⟨unique, holds.inOrder, holds.once⟩

theorem MigrationInvariant.close (holds : MigrationInvariant directory state) (pid : Pid) :
    MigrationInvariant directory (state.withTransaction pid none) :=
  holds.withTransaction (holds.unique.close pid)

/-- A statement that fails adds nothing. -/
theorem MigrationInvariant.failed (holds : MigrationInvariant directory state)
    (left : after = state ∨ after = state.withTransaction pid none ∨
      ∃ transaction, state.transaction pid = some transaction ∧
        after = state.withTransaction pid (some { transaction with aborted := true })) :
    MigrationInvariant directory after := by
  have unique := holds.unique.failed left
  rcases left with rfl | rfl | ⟨opened, _, rfl⟩
  · exact holds
  · exact holds.withTransaction unique
  · exact holds.withTransaction unique

/-- The table is made, or nothing happens. -/
theorem createTable_keeps (holds : MigrationInvariant directory state) {fault : Fault}
    {reply : Except MigrationError Unit}
    (outcome : migrationOutcome directory pid fault .createTable state = some (reply, after)) :
    MigrationInvariant directory after ∧ MigrationFrame pid state after := by
  have made : MigrationInvariant directory
      { state with table := { state.table with created := true } } :=
    ⟨⟨holds.unique.distinct, holds.unique.fresh, holds.unique.apart⟩, holds.inOrder, holds.once⟩
  have frame : MigrationFrame pid state
      { state with table := { state.table with created := true } } :=
    ⟨fun _version member => member, fun _other _different => rfl⟩
  cases fault with
  | none | acknowledgementLost =>
      obtain ⟨-, rfl⟩ := Prod.mk.inj (Option.some.inj outcome)
      exact ⟨made, frame⟩
  | statementError | connectionLost =>
      obtain ⟨-, rfl⟩ := Prod.mk.inj (Option.some.inj outcome)
      exact ⟨holds, .refl⟩

omit [DecidableEq Pid] in
theorem delivered_cases {Value : Type} (fault : Fault) (error : MigrationError) (value : Value) :
    delivered fault error value = .ok value ∨ delivered fault error value = .error error := by
  cases fault with
  | none => exact Or.inl rfl
  | statementError | connectionLost | acknowledgementLost => exact Or.inr rfl

/-- A lookup that is answered counts the committed rows. -/
theorem selectVersion_reads {fault : Fault} {file : String} {reply : Except MigrationError Nat}
    (outcome : migrationOutcome directory pid fault (.selectVersion file) state =
      some (reply, after)) :
    after = state ∧
      (reply = .ok (after.table.versions.count file) ∨ reply = .error .query) := by
  have answer : (if state.table.created = true then
      some (delivered fault .query (state.table.versions.count file), state)
    else some (.error .query, state)) = some (reply, after) := outcome
  split at answer
  · obtain ⟨rfl, rfl⟩ := Prod.mk.inj (Option.some.inj answer)
    exact ⟨rfl, delivered_cases fault .query _⟩
  · obtain ⟨rfl, rfl⟩ := Prod.mk.inj (Option.some.inj answer)
    exact ⟨rfl, Or.inr rfl⟩

theorem beginMigration_keeps (holds : MigrationInvariant directory state) {fault : Fault}
    {reply : Except MigrationError Unit}
    (outcome : state.begin MigrationError.query fault pid = (reply, after)) :
    MigrationInvariant directory after ∧ MigrationFrame pid state after ∧
      (reply = .ok () → HasDone after pid []) := by
  have frame := state.begin_frame MigrationError.query fault pid
  rw [outcome] at frame
  refine ⟨?_, .of_sameTable frame.1 frame.2, ?_⟩
  · rcases state.begin_cases MigrationError.query fault pid with opened | failed
    · obtain ⟨-, rfl⟩ := Prod.mk.inj (outcome.symm.trans opened)
      exact holds.withTransaction (holds.unique.openEmpty pid)
    · obtain ⟨-, rfl⟩ := Prod.mk.inj (outcome.symm.trans failed)
      exact holds
  · intro answered opened found
    rcases state.begin_cases MigrationError.query fault pid with begun | failed
    · obtain ⟨-, rfl⟩ := Prod.mk.inj (outcome.symm.trans begun)
      rw [TransactionalStore.withTransaction_self] at found
      obtain rfl := Option.some.inj found
      exact ⟨rfl, rfl⟩
    · obtain ⟨isError, -⟩ := Prod.mk.inj (outcome.symm.trans failed)
      rw [answered] at isError
      cases isError

theorem executeMigration_keeps (holds : MigrationInvariant directory state) {fault : Fault}
    {reply : Except MigrationError Unit} {file sql : String} (nothing : HasDone state pid [])
    (outcome : migrationOutcome directory pid fault (.execute file sql) state =
      some (reply, after)) :
    MigrationInvariant directory after ∧ MigrationFrame pid state after ∧
      (reply = .ok () → HasDone after pid [.applied file sql]) := by
  have statement : state.statement MigrationError.query
      (fun _opened => .accept () [.applied file sql]) fault pid = some (reply, after) := outcome
  obtain ⟨sameTable, elsewhere⟩ := TransactionalStore.statement_frame statement
  have frame := MigrationFrame.of_sameTable sameTable elsewhere
  rcases TransactionalStore.statement_cases statement with
    ⟨opened, _value, effects, found, sound, judged, _answered, rfl⟩ | ⟨failed, left⟩
  · have noEffects : opened.pending = [] := (nothing opened found).2
    obtain ⟨-, rfl⟩ := Verdict.accept.inj judged
    refine ⟨holds.withTransaction (holds.unique.keep found sound rfl), frame, ?_⟩
    intro _answer now isNow
    rw [TransactionalStore.withTransaction_self, noEffects] at isNow
    obtain rfl := Option.some.inj isNow
    exact ⟨rfl, rfl⟩
  · refine ⟨holds.failed left, frame, ?_⟩
    intro answered
    rw [answered] at failed
    cases failed

theorem insertMigration_keeps (holds : MigrationInvariant directory state) {fault : Fault}
    {reply : Except MigrationError Unit} {file sql : String}
    (executed : HasDone state pid [.applied file sql])
    (outcome : migrationOutcome directory pid fault (.insertVersion file) state =
      some (reply, after)) :
    MigrationInvariant directory after ∧ MigrationFrame pid state after ∧
      (reply = .ok () → HasDone after pid [.applied file sql, .inserted file]) := by
  have statement : state.statement MigrationError.query (judgeInsertVersion pid file state)
      fault pid = some (reply, after) := outcome
  obtain ⟨sameTable, elsewhere⟩ := TransactionalStore.statement_frame statement
  have frame := MigrationFrame.of_sameTable sameTable elsewhere
  rcases TransactionalStore.statement_cases statement with
    ⟨opened, _value, effects, found, sound, judged, _answered, rfl⟩ | ⟨failed, left⟩
  · have effectsBefore : opened.pending = [.applied file sql] := (executed opened found).2
    unfold judgeInsertVersion at judged
    split at judged
    · cases judged
    · split at judged
      · cases judged
      · next free =>
        split at judged
        · cases judged
        · next alone =>
          obtain ⟨-, rfl⟩ := Verdict.accept.inj judged
          have unwritten := Bool.eq_false_iff.mpr alone
          refine ⟨holds.withTransaction (holds.unique.insert found sound rfl free unwritten),
            frame, ?_⟩
          intro _answer now isNow
          rw [TransactionalStore.withTransaction_self, effectsBefore] at isNow
          obtain rfl := Option.some.inj isNow
          exact ⟨rfl, rfl⟩
  · refine ⟨holds.failed left, frame, ?_⟩
    intro answered
    rw [answered] at failed
    cases failed

/-- A commit adds the row of the file and its SQL, which comes next, or
nothing. -/
theorem commitMigration_keeps (holds : MigrationInvariant directory state) {fault : Fault}
    {reply : Except MigrationError Unit} {file sql : String} {rest : List String}
    (reached : Reached directory state (file :: rest)) (isContents : sql = directory.contents file)
    (done : HasDone state pid [.applied file sql, .inserted file])
    (outcome : state.commit MigrationError.query MigrationTables.perform fault pid =
      (reply, after)) :
    MigrationInvariant directory after ∧ MigrationFrame pid state after ∧
      (reply = .ok () → file ∈ after.table.versions) := by
  have elsewhere := state.commit_sameElsewhere MigrationError.query MigrationTables.perform
    fault pid
  rw [outcome] at elsewhere
  rcases state.commit_cases MigrationError.query MigrationTables.perform fault pid with
    ⟨failed, _⟩ | closed | ⟨opened, answer, found, committed⟩
  · obtain ⟨rfl, rfl⟩ := Prod.mk.inj (outcome.symm.trans failed)
    exact ⟨holds, .refl, by simp⟩
  · obtain ⟨rfl, rfl⟩ := Prod.mk.inj (outcome.symm.trans closed)
    exact ⟨holds.close pid, .of_sameTable rfl elsewhere, by simp⟩
  · obtain ⟨rfl, rfl⟩ := Prod.mk.inj (outcome.symm.trans committed)
    obtain ⟨sound, effects⟩ := done opened found
    have fresh := holds.unique.fresh pid opened found sound
    have effectKeys : opened.pending.flatMap versionKeys = [file] := by
      rw [effects]
      rfl
    have table : state.applied MigrationTables.perform opened =
        { state.table with
          versions := state.table.versions ++ [file]
          applied := state.table.applied ++ [(file, sql)] } := by
      rw [TransactionalStore.applied, sound, effects]
      rfl
    rw [effectKeys] at fresh
    have undone : file ∉ state.table.versions := fun isDone =>
      (List.nodup_append.mp fresh).2.2 file isDone file (List.mem_singleton_self file) rfl
    obtain ⟨before, planned, earlier⟩ := reached
    have inOrder : state.table.versions = before :=
      eq_of_first_undone planned (migrationFiles_nodup directory) holds.inOrder earlier undone
    rw [table] at elsewhere ⊢
    refine ⟨⟨?_, ?_, ?_⟩, ⟨?_, elsewhere⟩, ?_⟩
    · apply holds.unique.commit found
      · intro aborted
        rw [sound] at aborted
        cases aborted
      · intro _sound
        exact congrArg _ effectKeys.symm
    · refine ⟨rest, ?_⟩
      rw [planned, ← inOrder, List.append_assoc]
      rfl
    · show state.table.applied ++ [(file, sql)] = List.map _ (state.table.versions ++ [file])
      rw [holds.once, List.map_append, isContents]
      rfl
    · intro version member
      exact List.mem_append_left _ member
    · intro _answered
      exact List.mem_append_right _ (List.mem_singleton_self file)

theorem rollbackMigration_keeps (holds : MigrationInvariant directory state) (fault : Fault)
    (pid : Pid) :
    MigrationInvariant directory (state.rollback MigrationError.query fault pid).2 := by
  rcases state.rollback_cases MigrationError.query fault pid with ⟨unchanged, _⟩ | closed
  · rw [unchanged]
    exact holds
  · rw [closed]
    exact holds.close pid

/-- At its stage a run issues a statement that keeps the invariant and leads it to
a further stage. -/
def MigrationStage.Keeps (directory : MigrationDirectory) (pid : Pid)
    (state : MigrationState Pid) (stage : MigrationStage) : Prop :=
  ∀ (fault : Fault) (statement : MigrationStatement)
    (next : Except MigrationError statement.Reply → MigrationProgram)
    (reply : Except MigrationError statement.Reply) (after : MigrationState Pid),
    stage.program = .perform statement next →
    stage.Holds directory pid state →
    migrationOutcome directory pid fault statement state = some (reply, after) →
      MigrationInvariant directory after ∧
        AtMigrationStage directory pid after (next reply) ∧ MigrationFrame pid state after

theorem creatingTable_keeps (holds : MigrationInvariant directory state) :
    MigrationStage.creating.Keeps directory pid state := by
  intro fault statement next reply after same _facts outcome
  rw [MigrationStage.program, migrate_eq] at same
  cases same
  obtain ⟨kept, frame⟩ := createTable_keeps holds outcome
  refine ⟨kept, ?_, frame⟩
  cases reply with
  | ok _ => exact ⟨.listing, rfl, trivial⟩
  | error error => exact ⟨.threw error, rfl, trivial⟩

theorem listingFiles_keeps (holds : MigrationInvariant directory state) :
    MigrationStage.listing.Keeps directory pid state := by
  intro fault statement next reply after same _facts outcome
  cases same
  obtain ⟨rfl, rfl⟩ := Prod.mk.inj (Option.some.inj outcome)
  refine ⟨holds, ?_, .refl⟩
  rcases delivered_cases fault .file directory.entries with answered | failed
  · rw [answered]
    exact ⟨.checking (migrationFiles directory.entries), rfl, [], rfl, by simp⟩
  · rw [failed]
    exact ⟨.threw .file, rfl, trivial⟩

/-- A version that is found is skipped, and the file of another one is read. -/
theorem checkingFile_keeps {rest : List String} (holds : MigrationInvariant directory state) :
    (MigrationStage.checking rest).Keeps directory pid state := by
  intro fault statement next reply after same facts outcome
  cases rest with
  | nil => cases same
  | cons file rest =>
      rw [MigrationStage.program, migrateFiles_cons] at same
      cases same
      obtain ⟨rfl, answer⟩ := selectVersion_reads outcome
      refine ⟨holds, ?_, .refl⟩
      rcases answer with rfl | rfl
      · by_cases found : after.table.versions.count file = 0
        · exact ⟨.reading file rest, by simp [MigrationStage.program, found], facts⟩
        · have committed := List.count_pos_iff.mp (Nat.pos_of_ne_zero found)
          exact ⟨.checking rest, by simp [MigrationStage.program, found],
            Reached.next facts committed⟩
      · exact ⟨.threw .query, rfl, trivial⟩

theorem readingFile_keeps {file : String} {rest : List String}
    (holds : MigrationInvariant directory state) :
    (MigrationStage.reading file rest).Keeps directory pid state := by
  intro fault statement next reply after same facts outcome
  cases same
  obtain ⟨rfl, rfl⟩ := Prod.mk.inj (Option.some.inj outcome)
  refine ⟨holds, ?_, .refl⟩
  rcases delivered_cases fault .file (directory.contents file) with answered | failed
  · rw [answered]
    exact ⟨.connecting file (directory.contents file) rest, rfl, facts, rfl⟩
  · rw [failed]
    exact ⟨.threw .file, rfl, trivial⟩

theorem connectingRun_keeps {file sql : String} {rest : List String}
    (holds : MigrationInvariant directory state) :
    (MigrationStage.connecting file sql rest).Keeps directory pid state := by
  intro fault statement next reply after same facts outcome
  cases same
  obtain ⟨rfl, rfl⟩ := Prod.mk.inj (Option.some.inj outcome)
  refine ⟨holds, ?_, .refl⟩
  rcases delivered_cases fault .query () with answered | failed
  · rw [answered]
    exact ⟨.opening file sql rest, rfl, facts⟩
  · rw [failed]
    exact ⟨.threw .query, rfl, trivial⟩

theorem openingRun_keeps {file sql : String} {rest : List String}
    (holds : MigrationInvariant directory state) :
    (MigrationStage.opening file sql rest).Keeps directory pid state := by
  intro fault statement next reply after same facts outcome
  cases same
  obtain ⟨kept, frame, nothing⟩ := beginMigration_keeps holds (Option.some.inj outcome)
  refine ⟨kept, ?_, frame⟩
  cases reply with
  | ok _ =>
      exact ⟨.executing file sql rest, rfl, facts.1.mono frame.versions, facts.2, nothing rfl⟩
  | error error => exact ⟨.undoing error, rfl, trivial⟩

/-- The SQL of the file takes effect in the transaction. -/
theorem executingFile_keeps {file sql : String} {rest : List String}
    (holds : MigrationInvariant directory state) :
    (MigrationStage.executing file sql rest).Keeps directory pid state := by
  intro fault statement next reply after same facts outcome
  cases same
  obtain ⟨reached, isContents, nothing⟩ := facts
  obtain ⟨kept, frame, executed⟩ := executeMigration_keeps holds nothing outcome
  refine ⟨kept, ?_, frame⟩
  cases reply with
  | ok _ =>
      exact ⟨.inserting file sql rest, rfl, reached.mono frame.versions, isContents,
        executed rfl⟩
  | error error => exact ⟨.undoing error, rfl, trivial⟩

theorem insertingVersion_keeps {file sql : String} {rest : List String}
    (holds : MigrationInvariant directory state) :
    (MigrationStage.inserting file sql rest).Keeps directory pid state := by
  intro fault statement next reply after same facts outcome
  cases same
  obtain ⟨reached, isContents, executed⟩ := facts
  obtain ⟨kept, frame, inserted⟩ := insertMigration_keeps holds executed outcome
  refine ⟨kept, ?_, frame⟩
  cases reply with
  | ok _ =>
      exact ⟨.committing file sql rest, rfl, reached.mono frame.versions, isContents,
        inserted rfl⟩
  | error error => exact ⟨.undoing error, rfl, trivial⟩

/-- `COMMIT` makes the row and the effect of the SQL visible together. -/
theorem committingRun_keeps {file sql : String} {rest : List String}
    (holds : MigrationInvariant directory state) :
    (MigrationStage.committing file sql rest).Keeps directory pid state := by
  intro fault statement next reply after same facts outcome
  cases same
  obtain ⟨reached, isContents, done⟩ := facts
  obtain ⟨kept, frame, committed⟩ :=
    commitMigration_keeps holds reached isContents done (Option.some.inj outcome)
  refine ⟨kept, ?_, frame⟩
  cases reply with
  | ok _ =>
      exact ⟨.checking rest, rfl, (reached.mono frame.versions).next (committed rfl)⟩
  | error error => exact ⟨.undoing error, rfl, trivial⟩

theorem undoingRun_keeps {error : MigrationError} (holds : MigrationInvariant directory state) :
    (MigrationStage.undoing error).Keeps directory pid state := by
  intro fault statement next reply after same _facts outcome
  cases same
  have kept := rollbackMigration_keeps holds fault pid
  obtain ⟨sameTable, elsewhere⟩ := state.rollback_frame MigrationError.query fault pid
  have isOutcome : state.rollback MigrationError.query fault pid = (reply, after) :=
    Option.some.inj outcome
  rw [isOutcome] at kept sameTable elsewhere
  refine ⟨kept, ?_, .of_sameTable sameTable elsewhere⟩
  cases reply with
  | ok _ => exact ⟨.threw error, rfl, trivial⟩
  | error failed => exact ⟨.threw failed, rfl, trivial⟩

/-- A statement leads a run to its next stage. -/
theorem AtMigrationStage.advance {fault : Fault} {statement : MigrationStatement}
    {next : Except MigrationError statement.Reply → MigrationProgram}
    {reply : Except MigrationError statement.Reply}
    (holds : MigrationInvariant directory state)
    (standing : AtMigrationStage directory pid state (.perform statement next))
    (outcome : migrationOutcome directory pid fault statement state = some (reply, after)) :
    MigrationInvariant directory after ∧ AtMigrationStage directory pid after (next reply) ∧
      MigrationFrame pid state after := by
  obtain ⟨stage, same, facts⟩ := standing
  have keeps : stage.Keeps directory pid state := by
    cases stage with
    | threw error =>
        intro _ _ _ _ _ isOver
        cases isOver
    | creating => exact creatingTable_keeps holds
    | listing => exact listingFiles_keeps holds
    | checking rest => exact checkingFile_keeps holds
    | reading file rest => exact readingFile_keeps holds
    | connecting file sql rest => exact connectingRun_keeps holds
    | opening file sql rest => exact openingRun_keeps holds
    | executing file sql rest => exact executingFile_keeps holds
    | inserting file sql rest => exact insertingVersion_keeps holds
    | committing file sql rest => exact committingRun_keeps holds
    | undoing error => exact undoingRun_keeps holds
  exact keeps fault statement next reply after same facts outcome

end Invariant

/-! ## Whole schedules -/

section Schedules

variable {Pid : Type} [DecidableEq Pid]

private theorem migrationStart_consistent (directory : MigrationDirectory) (created : Bool) :
    (migrationStart created : MigrationWorld Pid).Consistent (MigrationInvariant directory)
      (AtMigrationStage directory) where
  shared :=
    { unique := ⟨List.nodup_nil, by rintro _ _ ⟨⟩, by rintro _ _ _ _ _ ⟨⟩⟩
      inOrder := List.nil_prefix
      once := rfl }
  points := by
    intro pid program starting
    cases starting
    exact ⟨.creating, rfl, trivial⟩

private theorem consistentMigration_step {directory : MigrationDirectory}
    (world : MigrationWorld Pid) (event : Event Pid Fault)
    (consistent :
      world.Consistent (MigrationInvariant directory) (AtMigrationStage directory)) :
    (world.step (migrationServer directory) event).Consistent (MigrationInvariant directory)
      (AtMigrationStage directory) := by
  refine @World.Consistent.step _ _ _ _ _ _ _ _ _ _ _ (fun _ _ => True) ?_ ?_ world event
    consistent trivial
  · intro world pid fault statement next reply shared consistent current _always outcome
    obtain ⟨kept, standing, frame⟩ :=
      AtMigrationStage.advance consistent.shared (consistent.points pid _ current) outcome
    exact ⟨kept, standing, fun other program different => AtMigrationStage.frame frame different⟩
  · intro pid state holds
    exact ⟨holds.close pid, fun other program standing => standing.disconnect⟩

/-- Whatever runs of `migrate` do, fail and crash, the rows are at every moment
those of the first files in order, and the SQL of a file has taken effect once
if its row is there and never otherwise. -/
theorem migrations_prefix_and_once (directory : MigrationDirectory) (created : Bool)
    (schedule : List (Event Pid Fault)) :
    let tables := (run (World.step (migrationServer directory)) (migrationStart created)
      schedule).shared.table
    tables.versions <+: migrationFiles directory.entries ∧
      (∀ file, (tables.applied.map Prod.fst).count file =
        if file ∈ tables.versions then 1 else 0) ∧
      ∀ migration ∈ tables.applied, migration.2 = directory.contents migration.1 := by
  intro tables
  have consistent := run_invariant_of_step consistentMigration_step schedule
    (@migrationStart_consistent Pid _ directory created)
  obtain ⟨unique, inOrder, once⟩ := consistent.shared
  refine ⟨inOrder, ?_, ?_⟩
  · intro file
    have names : tables.applied.map Prod.fst = tables.versions := by
      rw [once, List.map_map]
      exact List.map_id _
    rw [names, unique.distinct.count]
  · intro migration member
    rw [once] at member
    obtain ⟨version, _committed, rfl⟩ := List.mem_map.mp member
    rfl

end Schedules

/-- A directory of two migrations, listed with another file and out of order. -/
def twoMigrations : MigrationDirectory where
  entries := ["002_users.sql", "readme.md", "001_tenants.sql"]
  contents file := "-- " ++ file
  nodup := by decide

/-- A run that crashes inside its first transaction, and one that comes to its
end beside it. -/
def crashAndMigrate : List (Event Bool Fault) :=
  [.statement false .none, .statement true .none, .statement false .none,
    .statement false .none, .statement false .none, .statement false .none,
    .statement false .none, .statement false .none, .crash false] ++
      List.replicate 17 (.statement true .none)

theorem migrations_prefix_and_once_afterCrash :
    let tables := (run (World.step (migrationServer twoMigrations)) (migrationStart true)
      crashAndMigrate).shared.table
    tables.versions <+: migrationFiles twoMigrations.entries ∧
      (∀ file, (tables.applied.map Prod.fst).count file =
        if file ∈ tables.versions then 1 else 0) ∧
      ∀ migration ∈ tables.applied, migration.2 = twoMigrations.contents migration.1 :=
  migrations_prefix_and_once twoMigrations true crashAndMigrate

example :
    (run (World.step (migrationServer twoMigrations)) (migrationStart true)
      crashAndMigrate).shared.table.versions = ["001_tenants.sql", "002_users.sql"] := by
  decide +kernel

end PlatformArchitecture.Postgres
