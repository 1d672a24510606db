import PlatformArchitecture.Postgres.Outbox

/-!
# The stages of an outbox process

What is left of the program of a flush or a business transaction at each
stage, what is known of the process there, and the invariant of the table, its
transactions and the bus.
-/

namespace PlatformArchitecture.Postgres

open PlatformArchitecture.Domain
open PlatformArchitecture.Foundations

/-! ## The rest of the program at each stage -/

/-- The catch block: roll back and rethrow. -/
def undoOutbox (error : OutboxError) : OutboxProgram Nat :=
  .branch .rollback (fun _ => .fail error) .fail

def finishOutbox (count : Nat) : OutboxProgram Nat :=
  .branch .commit (fun _ => .done count) undoOutbox

def publishFrom (toISOString : Nat → String) (count : Nat) :
    List OutboxRow → OutboxProgram Nat
  | [] => finishOutbox count
  | row :: rest =>
      .branch (.publish (eventOfRow toISOString row))
        (fun _ =>
          .branch (.markPublished row.id) (fun _ => publishFrom toISOString count rest)
            undoOutbox)
        undoOutbox

def appendFrom (count : Nat) : List DomainEvent → OutboxProgram Nat
  | [] => finishOutbox count
  | event :: rest => .branch (.insert event) (fun _ => appendFrom count rest) undoOutbox

def selectBatch (toISOString : Nat → String) (batchSize : JsNumber) :
    OutboxProgram Nat :=
  .branch (.selectUnpublished batchSize)
    (fun rows => publishFrom toISOString rows.length rows) undoOutbox

def workOf (toISOString : Nat → String) : OutboxTask → OutboxProgram Nat
  | .append events => appendFrom events.length events
  | .flush batchSize => selectBatch toISOString batchSize

def openOutbox (toISOString : Nat → String) (task : OutboxTask) :
    OutboxProgram Nat :=
  .branch .begin (fun _ => workOf toISOString task) undoOutbox

/-- Where a process stands. -/
inductive OutboxStage where
  | connecting (task : OutboxTask)
  | opening (task : OutboxTask)
  | selecting (batchSize : JsNumber)
  | publishing (row : OutboxRow) (rest : List OutboxRow) (count : Nat)
  | marking (row : OutboxRow) (rest : List OutboxRow) (count : Nat)
  | appending (event : DomainEvent) (rest : List DomainEvent) (count : Nat)
  | finishing (count : Nat)
  | undoing (error : OutboxError)
  | threw (error : OutboxError)
  | returned (count : Nat)

/-- What is left of the program of a process at a stage. -/
def OutboxStage.program (toISOString : Nat → String) : OutboxStage → OutboxProgram Nat
  | .connecting task => .branch .connect (fun _ => openOutbox toISOString task) .fail
  | .opening task => openOutbox toISOString task
  | .selecting batchSize => selectBatch toISOString batchSize
  | .publishing row rest count => publishFrom toISOString count (row :: rest)
  | .marking row rest count =>
      .branch (.markPublished row.id) (fun _ => publishFrom toISOString count rest) undoOutbox
  | .appending event rest count => appendFrom count (event :: rest)
  | .finishing count => finishOutbox count
  | .undoing error => undoOutbox error
  | .threw error => .fail error
  | .returned count => .done count

/-- The last statement of a body that was not caught yet. -/
def commitOutbox (count : Nat) : OutboxProgram Nat :=
  .branch .commit (fun _ => .done count) .fail

private theorem publishRows_bind (toISOString : Nat → String) (count : Nat)
    (rows : List OutboxRow) :
    (publishRows toISOString rows >>= fun _ => commitOutbox count).orElse undoOutbox =
      publishFrom toISOString count rows := by
  induction rows with
  | nil => exact Program.branch_orElse _ _ _ _
  | cons row rest inductionHypothesis =>
      simp only [publishRows, publishFrom, awaitOutbox, Program.call_bind,
        Program.branch_bind, Program.branch_orElse, Program.fail_bind,
        Program.fail_orElse, inductionHypothesis]

private theorem appendAll_bind (count : Nat) (events : List DomainEvent) :
    (appendAll events >>= fun _ => commitOutbox count).orElse undoOutbox =
      appendFrom count events := by
  induction events with
  | nil => exact Program.branch_orElse _ _ _ _
  | cons event rest inductionHypothesis =>
      simp only [appendAll, appendFrom, appendOutbox, awaitOutbox, Program.call_bind,
        Program.branch_bind, Program.branch_orElse, Program.fail_bind,
        Program.fail_orElse, inductionHypothesis]

theorem OutboxTask.program_eq (toISOString : Nat → String) (task : OutboxTask) :
    task.program toISOString =
      (OutboxStage.connecting task).program toISOString := by
  have caught : (fun error => do
      awaitOutbox .rollback
      throw error) = undoOutbox := by
    funext error
    simp only [awaitOutbox, Program.call_bind, Program.throw_eq]
    rfl
  have committed : ∀ count, (do
      awaitOutbox .commit
      return count) = commitOutbox count := by
    intro count
    simp only [awaitOutbox, Program.call_bind, Program.pure_eq]
    rfl
  cases task with
  | append events =>
      simp only [OutboxTask.program, businessTransaction, committed, caught]
      simp only [awaitOutbox, Program.call_bind, Program.branch_orElse,
        Program.fail_orElse, appendAll_bind]
      rfl
  | flush batchSize =>
      simp only [OutboxTask.program, flushOnce, committed, caught]
      simp only [awaitOutbox, Program.call_bind, Program.branch_orElse,
        Program.fail_orElse, publishRows_bind]
      rfl

/-! ## What a list of writes does to the table -/

/-- Two rows are versions of one event. -/
def SameEvent (first second : OutboxRow) : Prop :=
  first.id = second.id ∧
    ∀ toISOString, eventOfRow toISOString first = eventOfRow toISOString second

theorem SameEvent.refl (row : OutboxRow) : SameEvent row row :=
  ⟨rfl, fun _ => rfl⟩

theorem SameEvent.trans {first second third : OutboxRow}
    (left : SameEvent first second) (right : SameEvent second third) :
    SameEvent first third :=
  ⟨left.1.trans right.1, fun toISOString =>
    (left.2 toISOString).trans (right.2 toISOString)⟩

theorem sameEvent_marked (row : OutboxRow) (now : Nat) :
    SameEvent (row.marked now) row :=
  ⟨rfl, fun _ => rfl⟩

/-- No write removes a row or changes its event. -/
def Evolves (before after : List OutboxRow) : Prop :=
  ∀ row ∈ before, ∃ later ∈ after, SameEvent later row

theorem Evolves.refl (rows : List OutboxRow) : Evolves rows rows :=
  fun row member => ⟨row, member, SameEvent.refl row⟩

theorem Evolves.trans {first second third : List OutboxRow}
    (left : Evolves first second) (right : Evolves second third) :
    Evolves first third := by
  intro row member
  obtain ⟨middle, middleMember, middleSame⟩ := left row member
  obtain ⟨last, lastMember, lastSame⟩ := right middle middleMember
  exact ⟨last, lastMember, lastSame.trans middleSame⟩

theorem evolves_writeOutbox (rows : List OutboxRow) (write : OutboxWrite) :
    Evolves rows (writeOutbox rows write) := by
  intro row member
  cases write with
  | insert added => exact ⟨row, List.mem_append_left _ member, SameEvent.refl row⟩
  | lock id => exact ⟨row, member, SameEvent.refl row⟩
  | mark id now =>
      refine ⟨_, List.mem_map_of_mem member, ?_⟩
      split
      · exact sameEvent_marked row now
      · exact SameEvent.refl row

theorem evolves_writes (writes : List OutboxWrite) :
    ∀ rows, Evolves rows (writes.foldl writeOutbox rows) := by
  induction writes with
  | nil => exact Evolves.refl
  | cons write rest inductionHypothesis =>
      intro rows
      exact (evolves_writeOutbox rows write).trans (inductionHypothesis _)

/-- Where a row comes from: it was there or was inserted, and it is published
as it was unless a write marked it. -/
theorem origin_of_writes (writes : List OutboxWrite) :
    ∀ {rows : List OutboxRow} {row : OutboxRow},
      row ∈ writes.foldl writeOutbox rows →
        ∃ origin, (origin ∈ rows ∨ .insert origin ∈ writes) ∧ SameEvent row origin ∧
          (row.publishedAt = origin.publishedAt ∨ ∃ now, .mark row.id now ∈ writes) := by
  induction writes with
  | nil =>
      intro rows row member
      exact ⟨row, Or.inl member, SameEvent.refl row, Or.inl rfl⟩
  | cons write rest inductionHypothesis =>
      intro rows row member
      obtain ⟨middle, source, same, mark⟩ := inductionHypothesis member
      have laterMark : (∃ now, OutboxWrite.mark row.id now ∈ rest) →
          ∃ now, OutboxWrite.mark row.id now ∈ write :: rest := by
        rintro ⟨now, marked⟩
        exact ⟨now, List.mem_cons_of_mem _ marked⟩
      rcases source with written | inserted
      · cases write with
        | insert added =>
            refine ⟨middle, ?_, same, mark.imp_right laterMark⟩
            rcases List.mem_append.mp written with old | new
            · exact Or.inl old
            · rw [List.mem_singleton.mp new]
              exact Or.inr List.mem_cons_self
        | lock id =>
            exact ⟨middle, Or.inl written, same, mark.imp_right laterMark⟩
        | mark id now =>
            obtain ⟨origin, originMember, rfl⟩ := List.mem_map.mp written
            refine ⟨origin, Or.inl originMember, ?_⟩
            split at same
            · next marked =>
                refine ⟨same.trans (sameEvent_marked origin now), Or.inr ⟨now, ?_⟩⟩
                have sameId : row.id = id := same.1.trans marked
                rw [sameId]
                exact List.mem_cons_self
            · next unmarked =>
                rw [if_neg unmarked] at mark
                exact ⟨same, mark.imp_right laterMark⟩
      · exact ⟨middle, Or.inr (List.mem_cons_of_mem _ inserted), same,
          mark.imp_right laterMark⟩

theorem ids_writes (writes : List OutboxWrite) :
    ∀ rows : List OutboxRow,
      (writes.foldl writeOutbox rows).map OutboxRow.id =
        rows.map OutboxRow.id ++ writes.flatMap outboxKeys := by
  induction writes with
  | nil =>
      intro rows
      simp
  | cons write rest inductionHypothesis =>
      intro rows
      have one : (writeOutbox rows write).map OutboxRow.id =
          rows.map OutboxRow.id ++ outboxKeys write := by
        cases write with
        | insert added => simp [writeOutbox, outboxKeys]
        | lock id => simp [writeOutbox, outboxKeys]
        | mark id now =>
            have unmoved : ∀ row : OutboxRow,
                (if row.id = id then row.marked now else row).id = row.id := by
              intro row
              split
              · rfl
              · rfl
            simp [writeOutbox, markRows, outboxKeys, Function.comp_def, unmoved]
      rw [List.foldl_cons, inductionHypothesis, one, List.flatMap_cons,
        List.append_assoc]

/-! ## The invariant -/

section Invariant

variable {Pid : Type} [DecidableEq Pid]

/-- Keys are unique, what is or will be marked published was accepted by the
bus, and whoever called the bus for an event in a transaction that is still
open has locked its row. -/
structure OutboxInvariant (toISOString : Nat → String) (release : LockRelease)
    (state : OutboxState Pid) : Prop where
  unique : state.store.UniqueKeys (List.map OutboxRow.id) outboxKeys
  published : ∀ row ∈ state.store.table, row.publishedAt.isSome →
    eventOfRow toISOString row ∈ state.accepted
  inserted : ∀ pid opened, state.store.transaction pid = some opened →
    ∀ row, .insert row ∈ opened.pending → row.publishedAt = none
  marked : ∀ pid opened, state.store.transaction pid = some opened →
    ∀ id now, .mark id now ∈ opened.pending →
      ∃ row ∈ state.store.table, row.id = id ∧
        eventOfRow toISOString row ∈ state.accepted
  locked : ∀ pid opened event, state.store.transaction pid = some opened →
    (pid, event) ∈ state.published → .lock event.eventId ∈ opened.pending
  apart : ∀ pid other opened otherOpened, pid ≠ other →
    state.store.transaction pid = some opened → release.keepsLocks opened →
      state.store.transaction other = some otherOpened →
        release.keepsLocks otherOpened →
          ∀ id, .lock id ∈ opened.pending → .lock id ∉ otherOpened.pending

/-- A row of the batch is stored, and locked while the transaction is open. -/
structure Claimed (pid : Pid) (state : OutboxState Pid) (row : OutboxRow) : Prop where
  stored : ∃ now ∈ state.store.table, SameEvent now row
  locked : ∀ opened, state.store.transaction pid = some opened →
    .lock row.id ∈ opened.pending

/-- What is known of a process at a stage. -/
def OutboxStage.Holds (toISOString : Nat → String) (pid : Pid)
    (state : OutboxState Pid) : OutboxStage → Prop
  | .connecting _ | .opening _ => ∀ event, (pid, event) ∉ state.published
  | .selecting _ =>
      ∀ opened, state.store.transaction pid = some opened → opened.pending = []
  | .publishing row rest _ => ∀ batchRow ∈ row :: rest, Claimed pid state batchRow
  | .marking row rest _ =>
      (∀ batchRow ∈ row :: rest, Claimed pid state batchRow) ∧
        eventOfRow toISOString row ∈ state.accepted
  | .appending _ _ _ | .finishing _ | .undoing _ | .threw _ | .returned _ => True

def OutboxAt (toISOString : Nat → String) (pid : Pid) (state : OutboxState Pid)
    (program : OutboxProgram Nat) : Prop :=
  ∃ stage : OutboxStage,
    stage.program toISOString = program ∧ stage.Holds toISOString pid state

/-- What the facts of one process rely on. -/
structure OutboxFrame (pid : Pid) (before after : OutboxState Pid) : Prop where
  table : Evolves before.store.table after.store.table
  transaction : ∀ opened, after.store.transaction pid = some opened →
    before.store.transaction pid = some opened
  accepted : ∀ event ∈ before.accepted, event ∈ after.accepted
  published : ∀ event, (pid, event) ∈ after.published ↔ (pid, event) ∈ before.published

theorem Claimed.frame {pid : Pid} {before after : OutboxState Pid} {row : OutboxRow}
    (frame : OutboxFrame pid before after) (claimed : Claimed pid before row) :
    Claimed pid after row := by
  obtain ⟨⟨now, member, same⟩, locked⟩ := claimed
  obtain ⟨later, laterMember, laterSame⟩ := frame.table now member
  exact ⟨⟨later, laterMember, laterSame.trans same⟩,
    fun opened found => locked opened (frame.transaction opened found)⟩

theorem OutboxAt.frame {toISOString : Nat → String} {pid : Pid}
    {before after : OutboxState Pid} {program : OutboxProgram Nat}
    (frame : OutboxFrame pid before after)
    (standing : OutboxAt toISOString pid before program) :
    OutboxAt toISOString pid after program := by
  obtain ⟨stage, same, holds⟩ := standing
  refine ⟨stage, same, ?_⟩
  cases stage with
  | connecting task | opening task =>
      intro event
      rw [frame.published event]
      exact holds event
  | selecting batchSize =>
      intro opened found
      exact holds opened (frame.transaction opened found)
  | publishing row rest count =>
      intro batchRow member
      exact (holds batchRow member).frame frame
  | marking row rest count =>
      exact ⟨fun batchRow member => (holds.1 batchRow member).frame frame,
        frame.accepted _ holds.2⟩
  | appending | finishing | undoing | threw | returned => trivial

end Invariant

end PlatformArchitecture.Postgres
