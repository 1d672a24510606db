import PlatformArchitecture.Postgres.OutboxStatements

/-!
# Publication over whole runs

In every run of business transactions and flushes, a row is marked published
only after the bus accepted its event, an unpublished row stays in the table
until then, and two publishers whose transactions are open and have not failed
never call the bus for the same event.  After a failed statement a transaction
is open until its `ROLLBACK`, and a database that lets go of its row locks at the
failure hands the rows to the next publisher meanwhile.
-/

namespace PlatformArchitecture.Postgres

open PlatformArchitecture.Domain
open PlatformArchitecture.Foundations

section Stages

variable {Pid : Type} [DecidableEq Pid] {toISOString : Nat → String}
  {types : ColumnTypes} {release : LockRelease} {state : OutboxState Pid}

private theorem publishBegins (toISOString : Nat → String) (count : Nat) {pid : Pid}
    {rows : List OutboxRow} (claimed : ∀ row ∈ rows, Claimed pid state row) :
    OutboxAt toISOString pid state (publishFrom toISOString count rows) := by
  cases rows with
  | nil => exact ⟨.finishing count, rfl, trivial⟩
  | cons row rest => exact ⟨.publishing row rest count, rfl, claimed⟩

private theorem appendBegins (toISOString : Nat → String) (count : Nat) {pid : Pid}
    (events : List DomainEvent) :
    OutboxAt toISOString pid state (appendFrom count events) := by
  cases events with
  | nil => exact ⟨.finishing count, rfl, trivial⟩
  | cons event rest => exact ⟨.appending event rest count, rfl, trivial⟩

private theorem workBegins (toISOString : Nat → String) {pid : Pid}
    (task : OutboxTask)
    (nothing : ∀ opened, state.store.transaction pid = some opened →
      opened.pending = []) :
    OutboxAt toISOString pid state (workOf toISOString task) := by
  cases task with
  | append events => exact appendBegins toISOString events.length events
  | flush batchSize => exact ⟨.selecting batchSize, rfl, nothing⟩

/-- At its stage a process issues a statement that keeps the invariant and leads
it to a further stage. -/
def OutboxStage.Keeps (toISOString : Nat → String) (types : ColumnTypes) (release : LockRelease)
    (pid : Pid) (state : OutboxState Pid) (stage : OutboxStage) : Prop :=
  ∀ (choice : OutboxChoice) (statement : OutboxStatement)
    (next : Except OutboxError statement.Reply → OutboxProgram Nat)
    (reply : Except OutboxError statement.Reply) (after : OutboxState Pid),
    stage.program toISOString = .perform statement next →
    stage.Holds toISOString pid state →
    outboxOutcome types release pid choice statement state = some (reply, after) →
      OutboxInvariant toISOString release after ∧
        OutboxAt toISOString pid after (next reply) ∧ OutboxMove pid state after

theorem connectingStage_keeps {task : OutboxTask} {pid : Pid}
    (holds : OutboxInvariant toISOString release state) :
    (OutboxStage.connecting task).Keeps toISOString types release pid state := by
  intro choice statement next reply after same facts outcome
  cases same
  have unchanged : after = state := by
    cases fault : choice.fault <;> simp_all [outboxOutcome]
  subst after
  refine ⟨holds, ?_, outboxMove_refl pid state⟩
  cases reply with
  | ok _ => exact ⟨.opening task, rfl, facts⟩
  | error error => exact ⟨.threw error, rfl, trivial⟩

/-- `BEGIN`, and the first statement of the work. -/
theorem openingStage_keeps {task : OutboxTask} {pid : Pid}
    (holds : OutboxInvariant toISOString release state) :
    (OutboxStage.opening task).Keeps toISOString types release pid state := by
  intro choice statement next reply after same facts outcome
  cases same
  simp only [outboxOutcome, Option.some.injEq] at outcome
  obtain ⟨kept, move, opens⟩ := beginOutbox_keeps holds facts choice.fault
  rw [outcome] at kept move opens
  refine ⟨kept, ?_, move⟩
  cases reply with
  | error error => exact ⟨.undoing error, rfl, trivial⟩
  | ok _ =>
      apply workBegins
      intro opened found
      rw [opens rfl] at found
      cases found
      rfl

/-- What is selected is locked. -/
theorem selectingStage_keeps {batchSize : JsNumber} {pid : Pid}
    (holds : OutboxInvariant toISOString release state) :
    (OutboxStage.selecting batchSize).Keeps toISOString types release pid state := by
  intro choice statement next reply after same facts outcome
  cases same
  simp only [outboxOutcome, Option.map_eq_some_iff] at outcome
  obtain ⟨⟨answer, store⟩, executed, rfl, rfl⟩ := outcome
  obtain ⟨kept, claimed⟩ := selectUnpublished_keeps holds facts executed
  refine ⟨kept, ?_, outboxMove_store (TransactionalStore.statement_frame executed)⟩
  cases answer with
  | error error => exact ⟨.undoing error, rfl, trivial⟩
  | ok rows => exact publishBegins toISOString rows.length (claimed rows rfl)

/-- The bus is called for a row that is locked. -/
theorem publishingStage_keeps {row : OutboxRow} {rest : List OutboxRow} {count : Nat} {pid : Pid}
    (holds : OutboxInvariant toISOString release state) :
    (OutboxStage.publishing row rest count).Keeps toISOString types release pid state := by
  intro choice statement next reply after same facts outcome
  cases same
  simp only [outboxOutcome, Option.some.injEq] at outcome
  obtain ⟨kept, move, sameStore, accepted⟩ :=
    publish_keeps holds (facts row List.mem_cons_self) choice.fault
  rw [outcome] at kept move sameStore accepted
  refine ⟨kept, ?_, move⟩
  cases reply with
  | error error => exact ⟨.undoing error, rfl, trivial⟩
  | ok _ =>
      refine ⟨.marking row rest count, rfl, ?_, accepted rfl⟩
      intro batchRow member
      obtain ⟨stored, locked⟩ := facts batchRow member
      constructor
      · rw [sameStore]
        exact stored
      · rw [sameStore]
        exact locked

theorem markingStage_keeps {row : OutboxRow} {rest : List OutboxRow} {count : Nat} {pid : Pid}
    (holds : OutboxInvariant toISOString release state) :
    (OutboxStage.marking row rest count).Keeps toISOString types release pid state := by
  intro choice statement next reply after same facts outcome
  cases same
  simp only [outboxOutcome, Option.map_eq_some_iff] at outcome
  obtain ⟨⟨answer, store⟩, executed, rfl, rfl⟩ := outcome
  obtain ⟨kept, stillClaimed⟩ :=
    markPublished_keeps holds (facts.1 row List.mem_cons_self) facts.2 executed
  refine ⟨kept, ?_, outboxMove_store (TransactionalStore.statement_frame executed)⟩
  cases answer with
  | error error => exact ⟨.undoing error, rfl, trivial⟩
  | ok _ =>
      apply publishBegins
      intro batchRow member
      exact stillClaimed rfl batchRow (facts.1 batchRow (List.mem_cons_of_mem _ member))

theorem appendingStage_keeps {event : DomainEvent} {rest : List DomainEvent} {count : Nat}
    {pid : Pid} (holds : OutboxInvariant toISOString release state) :
    (OutboxStage.appending event rest count).Keeps toISOString types release pid state := by
  intro choice statement next reply after same _facts outcome
  cases same
  simp only [outboxOutcome, Option.map_eq_some_iff] at outcome
  obtain ⟨⟨answer, store⟩, executed, rfl, rfl⟩ := outcome
  refine ⟨append_keeps holds executed, ?_,
    outboxMove_store (TransactionalStore.statement_frame executed)⟩
  cases answer with
  | error error => exact ⟨.undoing error, rfl, trivial⟩
  | ok _ => exact appendBegins toISOString count rest

theorem finishingStage_keeps {count : Nat} {pid : Pid}
    (holds : OutboxInvariant toISOString release state) :
    (OutboxStage.finishing count).Keeps toISOString types release pid state := by
  intro choice statement next reply after same _facts outcome
  cases same
  simp only [outboxOutcome, Option.some.injEq] at outcome
  obtain ⟨kept, move⟩ := commitOutbox_keeps holds pid choice.fault
  rw [outcome] at kept move
  refine ⟨kept, ?_, move⟩
  cases reply with
  | ok _ => exact ⟨.returned count, rfl, trivial⟩
  | error error => exact ⟨.undoing error, rfl, trivial⟩

theorem undoingStage_keeps {error : OutboxError} {pid : Pid}
    (holds : OutboxInvariant toISOString release state) :
    (OutboxStage.undoing error).Keeps toISOString types release pid state := by
  intro choice statement next reply after same _facts outcome
  cases same
  simp only [outboxOutcome, Option.some.injEq] at outcome
  obtain ⟨kept, move⟩ := rollbackOutbox_keeps holds pid choice.fault
  rw [outcome] at kept move
  refine ⟨kept, ?_, move⟩
  cases reply with
  | ok _ => exact ⟨.threw error, rfl, trivial⟩
  | error failed => exact ⟨.threw failed, rfl, trivial⟩

/-- A statement leads a process to its next stage. -/
theorem OutboxAt.advance {pid : Pid} {choice : OutboxChoice}
    {statement : OutboxStatement}
    {next : Except OutboxError statement.Reply → OutboxProgram Nat}
    {reply : Except OutboxError statement.Reply} {after : OutboxState Pid}
    (holds : OutboxInvariant toISOString release state)
    (standing : OutboxAt toISOString pid state (.perform statement next))
    (outcome :
      outboxOutcome types release pid choice statement state = some (reply, after)) :
    OutboxInvariant toISOString release after ∧
      OutboxAt toISOString pid after (next reply) ∧ OutboxMove pid state after := by
  obtain ⟨stage, same, facts⟩ := standing
  have keeps : stage.Keeps toISOString types release pid state := by
    cases stage with
    | returned count =>
        intro _ _ _ _ _ isOver
        cases isOver
    | threw error =>
        intro _ _ _ _ _ isOver
        cases isOver
    | connecting task => exact connectingStage_keeps holds
    | opening task => exact openingStage_keeps holds
    | selecting batchSize => exact selectingStage_keeps holds
    | publishing row rest count => exact publishingStage_keeps holds
    | marking row rest count => exact markingStage_keeps holds
    | appending event rest count => exact appendingStage_keeps holds
    | finishing count => exact finishingStage_keeps holds
    | undoing error => exact undoingStage_keeps holds
  exact keeps choice statement next reply after same facts outcome

end Stages

/-! ## Whole runs -/

section Runs

variable {Pid : Type} [DecidableEq Pid]

/-- A process whose transaction is open. -/
def HasOpenTransaction (state : OutboxState Pid) (pid : Pid) : Prop :=
  ∃ opened, state.store.transaction pid = some opened

/-- A process whose transaction is open and has not failed. -/
def HasSoundTransaction (state : OutboxState Pid) (pid : Pid) : Prop :=
  ∃ opened, state.store.transaction pid = some opened ∧ opened.aborted = false

/-- Two publishers of one event are never both at the point. -/
def NotBothAt (point : OutboxState Pid → Pid → Prop) (state : OutboxState Pid) : Prop :=
  ∀ first second firstEvent secondEvent, first ≠ second →
    (first, firstEvent) ∈ state.published →
      (second, secondEvent) ∈ state.published →
        firstEvent.eventId = secondEvent.eventId →
          ¬ (point state first ∧ point state second)

/-- What publication promises at every moment. -/
structure PublishedSafely (toISOString : Nat → String) (release : LockRelease)
    (state : OutboxState Pid) : Prop where
  /-- A row marked published has been accepted by the bus. -/
  accepted : ∀ row ∈ state.store.table, row.publishedAt.isSome →
    eventOfRow toISOString row ∈ state.accepted
  /-- Two publishers of one event do not both have a transaction that is open and
  has not failed. -/
  apart : NotBothAt HasSoundTransaction state
  /-- Where row locks last until the end of a failed transaction, they do not both
  have a transaction that is open. -/
  apartUntilEnd : release = .atEnd → NotBothAt HasOpenTransaction state

/-- An unpublished row of the earlier state is still there in the later one,
unpublished or accepted by the bus. -/
def NothingLost (toISOString : Nat → String) (earlier later : OutboxState Pid) :
    Prop :=
  ∀ row ∈ earlier.store.table, row.publishedAt = none →
    ∃ now ∈ later.store.table, SameEvent now row ∧
      (now.publishedAt = none ∨ eventOfRow toISOString row ∈ later.accepted)

/-- The invariant over a run that began with the rows of `baseline`. -/
private abbrev ConsistentOutbox (toISOString : Nat → String) (release : LockRelease)
    (baseline : List OutboxRow) (world : OutboxWorld Pid) : Prop :=
  world.Consistent
    (fun state =>
      OutboxInvariant toISOString release state ∧ Evolves baseline state.store.table)
    (OutboxAt toISOString)

private theorem outboxStart_consistent (toISOString : Nat → String)
    (release : LockRelease) (tasks : Pid → OutboxTask) :
    ConsistentOutbox toISOString release [] (outboxStart toISOString tasks) where
  shared :=
    ⟨{ unique := ⟨List.nodup_nil, by rintro _ _ ⟨⟩, by rintro _ _ _ _ _ ⟨⟩⟩
       published := fun row member => by cases member
       inserted := fun pid opened found => by cases found
       marked := fun pid opened found => by cases found
       locked := fun pid opened event found => by cases found
       apart := fun pid other opened otherOpened _ found => by cases found },
      Evolves.refl []⟩
  points := by
    intro pid program starting
    cases starting
    exact ⟨.connecting (tasks pid), ((tasks pid).program_eq toISOString).symm,
      fun event => List.not_mem_nil⟩

private theorem consistentOutbox_step {toISOString : Nat → String}
    {types : ColumnTypes} {release : LockRelease} {baseline : List OutboxRow}
    (world : OutboxWorld Pid) (event : Event Pid OutboxChoice)
    (consistent : ConsistentOutbox toISOString release baseline world) :
    ConsistentOutbox toISOString release baseline
      (world.step (outboxServer types release) event) := by
  refine @World.Consistent.step _ _ _ _ _ _ _ _ _ _ _ (fun _ _ => True) ?_ ?_
    world event consistent trivial
  · intro world pid choice statement next reply shared consistent current _ outcome
    obtain ⟨kept, standing, move⟩ :=
      OutboxAt.advance consistent.shared.1 (consistent.points pid _ current) outcome
    refine ⟨⟨kept, consistent.shared.2.trans move.table⟩, standing, ?_⟩
    intro other program different
    exact OutboxAt.frame (move.others different)
  · intro pid state holds
    refine ⟨⟨holds.1.close pid, holds.2⟩, ?_⟩
    intro other program standing
    apply OutboxAt.frame _ standing
    refine ⟨Evolves.refl _, ?_, fun _ member => member, fun _ => Iff.rfl⟩
    intro opened found
    change (state.store.withTransaction pid none).transaction other = _ at found
    by_cases same : other = pid
    · subst other
      simp at found
    · rwa [TransactionalStore.withTransaction_other _ same] at found

private theorem ConsistentOutbox.run {toISOString : Nat → String}
    {types : ColumnTypes} {release : LockRelease} {baseline : List OutboxRow}
    {world : OutboxWorld Pid}
    (consistent : ConsistentOutbox toISOString release baseline world)
    (schedule : List (Event Pid OutboxChoice)) :
    ConsistentOutbox toISOString release baseline
      (Foundations.run (World.step (outboxServer types release)) world schedule) :=
  run_invariant_of_step consistentOutbox_step schedule consistent

/-- Whoever calls the bus for an event keeps its row locked as long as locks are
kept. -/
private theorem OutboxInvariant.notBothKeep {toISOString : Nat → String} {release : LockRelease}
    {state : OutboxState Pid} (holds : OutboxInvariant toISOString release state)
    {point : OutboxState Pid → Pid → Prop}
    (keeps : ∀ pid, point state pid → ∃ opened, state.store.transaction pid = some opened ∧
      release.keepsLocks opened) : NotBothAt point state := by
  intro first second firstEvent secondEvent different firstCalled secondCalled same both
  obtain ⟨firstOpened, firstFound, firstKeeps⟩ := keeps first both.1
  obtain ⟨secondOpened, secondFound, secondKeeps⟩ := keeps second both.2
  have firstLock := holds.locked first firstOpened firstEvent firstFound firstCalled
  have secondLock := holds.locked second secondOpened secondEvent secondFound secondCalled
  rw [← same] at secondLock
  exact holds.apart first second firstOpened secondOpened different firstFound firstKeeps
    secondFound secondKeeps firstEvent.eventId firstLock secondLock

/-- For all tasks and schedules: published events were accepted, publishers of
one event exclude each other, and from any moment of the run to any later one
no unpublished row is lost. -/
theorem publishedSafely_of_schedule (types : ColumnTypes) (toISOString : Nat → String)
    (release : LockRelease) (tasks : Pid → OutboxTask)
    (schedule later : List (Event Pid OutboxChoice)) :
    let step := World.step (outboxServer types release)
    let moment := run step (outboxStart toISOString tasks) schedule
    PublishedSafely toISOString release moment.shared ∧
      NothingLost toISOString moment.shared (run step moment later).shared := by
  intro step moment
  have consistent : ConsistentOutbox toISOString release [] moment :=
    (outboxStart_consistent toISOString release tasks).run schedule
  have fromMoment :
      ConsistentOutbox toISOString release moment.shared.store.table moment :=
    ⟨⟨consistent.shared.1, Evolves.refl _⟩, consistent.points⟩
  have afterwards :
      ConsistentOutbox toISOString release moment.shared.store.table
        (run step moment later) :=
    fromMoment.run later
  refine ⟨⟨consistent.shared.1.published, ?_, ?_⟩, ?_⟩
  · apply consistent.shared.1.notBothKeep
    rintro pid ⟨opened, found, sound⟩
    exact ⟨opened, found, keepsLocks_of_sound sound⟩
  · rintro rfl
    apply consistent.shared.1.notBothKeep
    rintro pid ⟨opened, found⟩
    exact ⟨opened, found, rfl⟩
  · intro row member _
    obtain ⟨now, nowMember, sameEvent⟩ := afterwards.shared.2 row member
    refine ⟨now, nowMember, sameEvent, ?_⟩
    cases published : now.publishedAt with
    | none => exact Or.inl rfl
    | some moment =>
        right
        rw [← sameEvent.2]
        exact afterwards.shared.1.published now nowMember (by simp [published])

end Runs

/-! ## A publisher whose `UPDATE` fails -/

private def uploadedEvent : DomainEvent where
  eventId := "3b0c2f6e-6a0f-4f57-8d0a-4a1a5a6e9b21"
  eventType := "document.uploaded"
  eventVersion := .finite 1
  timestamp := "2026-01-01T00:00:00.000Z"
  tenantId := "0b8f6a54-7d3e-4c1a-8a55-3f2f7f0f9c11"
  workspaceId := none
  correlationId := "request"
  causationId := none
  source := "documents"
  data := .null

/-- One business transaction and two publishers. -/
private def uploadTasks : Option Bool → OutboxTask
  | none => .append [uploadedEvent]
  | some _ => .flush (.finite 1)

/-- The first publisher calls the bus and its `UPDATE` fails; before its
`ROLLBACK` the second one selects the row and calls the bus. -/
private def failedUpdate : List (Event (Option Bool) OutboxChoice) :=
  List.replicate 4 (.statement none ⟨.none, 0⟩) ++
    List.replicate 4 (.statement (some false) ⟨.none, 0⟩) ++
      .statement (some false) ⟨.statementError, 0⟩ ::
        List.replicate 4 (.statement (some true) ⟨.none, 0⟩)

/-- Where locks go at the failure, both transactions are open. -/
theorem bothOpen_afterFailure :
    ¬ NotBothAt HasOpenTransaction
      (run (World.step (outboxServer ColumnTypes.verbatim .atFailure))
        (outboxStart (fun _ => "") uploadTasks) failedUpdate).shared := by
  intro neverBoth
  let published : DomainEvent := { uploadedEvent with timestamp := "" }
  refine neverBoth (some false) (some true) published published (by decide)
    (by decide +kernel) (by decide +kernel) rfl ⟨?_, ?_⟩
  · exact Option.isSome_iff_exists.mp (by decide +kernel)
  · exact Option.isSome_iff_exists.mp (by decide +kernel)

end PlatformArchitecture.Postgres
