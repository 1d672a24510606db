import Mathlib.Data.List.Forall2
import PlatformArchitecture.Postgres.OutboxStages

/-!
# Where published events come from

The bus is outside the database and takes nothing back, yet it never accepts an
event of a transaction that was rolled back: a publisher reads committed rows,
and a business transaction commits all of its events or none.
-/

namespace PlatformArchitecture.Postgres

open PlatformArchitecture.Domain
open PlatformArchitecture.Foundations

section Origins

variable {Pid : Type}

/-- The row is what the statement of the event has inserted at some time. -/
def InsertedAs (types : ColumnTypes) (event : DomainEvent) (row : OutboxRow) : Prop :=
  ∃ now, insertedRow types event now = some row

/-- The table has the row, marked or not. -/
def IsStored (table : List OutboxRow) (row : OutboxRow) : Prop :=
  ∃ stored ∈ table, SameEvent stored row

/-- Rows of all events of a business transaction are in the table. -/
def AllStored (types : ColumnTypes) (table : List OutboxRow) (events : List DomainEvent) : Prop :=
  ∃ rows, List.Forall₂ (InsertedAs types) events rows ∧ ∀ row ∈ rows, IsStored table row

/-- The row was inserted for an event of a business transaction, all of whose
events are stored. -/
def Originates (types : ColumnTypes) (tasks : Pid → OutboxTask) (table : List OutboxRow)
    (row : OutboxRow) : Prop :=
  ∃ pid events rows inserted, tasks pid = .append events ∧
    List.Forall₂ (InsertedAs types) events rows ∧ (∀ other ∈ rows, IsStored table other) ∧
    inserted ∈ rows ∧ SameEvent row inserted

theorem SameEvent.symm {first second : OutboxRow} (same : SameEvent first second) :
    SameEvent second first :=
  ⟨same.1.symm, fun toISOString => (same.2 toISOString).symm⟩

theorem IsStored.evolves {before after : List OutboxRow} {row : OutboxRow}
    (stored : IsStored before row) (evolves : Evolves before after) : IsStored after row := by
  obtain ⟨found, member, same⟩ := stored
  obtain ⟨later, laterMember, laterSame⟩ := evolves found member
  exact ⟨later, laterMember, laterSame.trans same⟩

theorem AllStored.evolves {types : ColumnTypes} {before after : List OutboxRow}
    {events : List DomainEvent} (stored : AllStored types before events)
    (evolves : Evolves before after) : AllStored types after events := by
  obtain ⟨rows, inserted, allStored⟩ := stored
  exact ⟨rows, inserted, fun row member => (allStored row member).evolves evolves⟩

theorem Originates.evolves {types : ColumnTypes} {tasks : Pid → OutboxTask}
    {before after : List OutboxRow} {row later : OutboxRow}
    (originates : Originates types tasks before row) (evolves : Evolves before after)
    (same : SameEvent later row) : Originates types tasks after later := by
  obtain ⟨pid, events, rows, inserted, isTask, isInserted, allStored, member, sameEvent⟩ :=
    originates
  exact ⟨pid, events, rows, inserted, isTask, isInserted,
    fun other isOther => (allStored other isOther).evolves evolves, member,
    same.trans sameEvent⟩

/-- What the statements of the outbox keep: rows come from business
transactions, and what the bus has accepted is a stored row. -/
structure Traceable (types : ColumnTypes) (toISOString : Nat → String)
    (tasks : Pid → OutboxTask) (state : OutboxState Pid) : Prop where
  origins : ∀ row ∈ state.store.table, Originates types tasks state.store.table row
  accepted : ∀ event ∈ state.accepted,
    ∃ row ∈ state.store.table, eventOfRow toISOString row = event

/-- Where every row has a version from before, tables evolve without new
origins. -/
theorem Traceable.evolves {types : ColumnTypes} {toISOString : Nat → String}
    {tasks : Pid → OutboxTask} {before after : OutboxState Pid}
    (traceable : Traceable types toISOString tasks before)
    (evolves : Evolves before.store.table after.store.table)
    (old : ∀ row ∈ after.store.table, ∃ origin ∈ before.store.table, SameEvent row origin)
    (accepted : after.accepted = before.accepted) :
    Traceable types toISOString tasks after where
  origins := by
    intro row member
    obtain ⟨origin, isOld, same⟩ := old row member
    exact (traceable.origins origin isOld).evolves evolves same
  accepted := by
    intro event member
    rw [accepted] at member
    obtain ⟨row, isRow, rfl⟩ := traceable.accepted event member
    obtain ⟨later, isLater, same⟩ := evolves row isRow
    exact ⟨later, isLater, same.2 toISOString⟩

theorem Traceable.sameTable {types : ColumnTypes} {toISOString : Nat → String}
    {tasks : Pid → OutboxTask} {before after : OutboxState Pid}
    (traceable : Traceable types toISOString tasks before)
    (table : after.store.table = before.store.table)
    (accepted : after.accepted = before.accepted) :
    Traceable types toISOString tasks after := by
  refine traceable.evolves ?_ ?_ accepted
  · rw [table]
    exact Evolves.refl _
  · rw [table]
    exact fun row member => ⟨row, member, SameEvent.refl row⟩

/-- A publisher adds the event of a stored row. -/
theorem Traceable.accept {types : ColumnTypes} {toISOString : Nat → String}
    {tasks : Pid → OutboxTask} {state : OutboxState Pid}
    (traceable : Traceable types toISOString tasks state) {row : OutboxRow}
    (stored : IsStored state.store.table row) (published : List (Pid × DomainEvent)) :
    Traceable types toISOString tasks
      ⟨state.store, eventOfRow toISOString row :: state.accepted, published⟩ where
  origins := traceable.origins
  accepted := by
    intro event member
    rcases List.mem_cons.mp member with isNew | before
    · obtain ⟨found, isFound, same⟩ := stored
      exact ⟨found, isFound, (same.2 toISOString).trans isNew.symm⟩
    · exact traceable.accepted event before

/-- The rows that a transaction without inserts sees are stored. -/
theorem isStored_of_visible {state : OutboxState Pid} {opened : Transaction OutboxWrite}
    (inserts : ∀ row, .insert row ∉ opened.pending) {row : OutboxRow}
    (visible : row ∈ visibleOutbox state.store opened) : IsStored state.store.table row := by
  obtain ⟨origin, source, same, _⟩ := origin_of_writes opened.pending visible
  rcases source with isStored | inserted
  · exact ⟨origin, isStored, same.symm⟩
  · exact absurd inserted (inserts origin)

theorem foldl_inserts (rows : List OutboxRow) (table : List OutboxRow) :
    (rows.map OutboxWrite.insert).foldl writeOutbox table = table ++ rows := by
  induction rows generalizing table with
  | nil => exact (List.append_nil table).symm
  | cons row rest inductionHypothesis =>
      rw [List.map_cons, List.foldl_cons, inductionHypothesis, writeOutbox, List.append_assoc]
      rfl

/-- The rows of a business transaction are committed together. -/
theorem Traceable.commit {types : ColumnTypes} {toISOString : Nat → String}
    {tasks : Pid → OutboxTask} {pid : Pid} {before after : OutboxState Pid}
    {events : List DomainEvent}
    {rows : List OutboxRow}
    (traceable : Traceable types toISOString tasks before)
    (isAppend : tasks pid = .append events)
    (inserted : List.Forall₂ (InsertedAs types) events rows)
    (table : after.store.table = before.store.table ++ rows)
    (accepted : after.accepted = before.accepted) :
    Traceable types toISOString tasks after ∧ AllStored types after.store.table events := by
  have evolves : Evolves before.store.table after.store.table := by
    intro row member
    rw [table]
    exact ⟨row, List.mem_append_left rows member, SameEvent.refl row⟩
  have allStored : ∀ row ∈ rows, IsStored after.store.table row := by
    intro row member
    rw [table]
    exact ⟨row, List.mem_append_right _ member, SameEvent.refl row⟩
  refine ⟨⟨?_, ?_⟩, rows, inserted, allStored⟩
  · intro row member
    rw [table] at member
    rcases List.mem_append.mp member with old | new
    · exact (traceable.origins row old).evolves evolves (SameEvent.refl row)
    · exact ⟨pid, events, rows, row, isAppend, inserted, allStored, new, SameEvent.refl row⟩
  · intro event member
    rw [accepted] at member
    obtain ⟨row, isRow, rfl⟩ := traceable.accepted event member
    obtain ⟨later, isLater, same⟩ := evolves row isRow
    exact ⟨later, isLater, same.2 toISOString⟩

/-! ## The writes of an open transaction -/

variable [DecidableEq Pid]

/-- An open transaction of the process has inserted nothing. -/
def InsertsNothing (state : OutboxState Pid) (pid : Pid) : Prop :=
  ∀ opened, state.store.transaction pid = some opened → ∀ row, .insert row ∉ opened.pending

/-- An open transaction of the process is sound and has inserted rows of just
these events. -/
def InsertsAll (types : ColumnTypes) (state : OutboxState Pid) (pid : Pid)
    (events : List DomainEvent) : Prop :=
  ∀ opened, state.store.transaction pid = some opened → opened.aborted = false ∧
    ∃ rows, List.Forall₂ (InsertedAs types) events rows ∧
      opened.pending = rows.map OutboxWrite.insert

/-- What is known of a process with its task at a stage. -/
def OutboxStage.Traces (types : ColumnTypes) (task : OutboxTask) (pid : Pid)
    (state : OutboxState Pid) : OutboxStage → Prop
  | .connecting given | .opening given => given = task
  | .selecting batchSize => task = .flush batchSize ∧ InsertsNothing state pid
  | .publishing row rest _ =>
      (∃ batchSize, task = .flush batchSize) ∧ InsertsNothing state pid ∧
        ∀ batchRow ∈ row :: rest, IsStored state.store.table batchRow
  | .marking _ rest _ =>
      (∃ batchSize, task = .flush batchSize) ∧ InsertsNothing state pid ∧
        ∀ batchRow ∈ rest, IsStored state.store.table batchRow
  | .appending event rest count =>
      ∃ done, task = .append (done ++ event :: rest) ∧
        count = (done ++ event :: rest).length ∧ InsertsAll types state pid done
  | .finishing count =>
      (∃ batchSize, task = .flush batchSize) ∧ InsertsNothing state pid ∨
        ∃ events, task = .append events ∧ count = events.length ∧
          InsertsAll types state pid events
  | .returned count =>
      ∀ events, task = .append events →
        count = events.length ∧ AllStored types state.store.table events
  | .undoing _ | .threw _ => True

def OutboxTraced (types : ColumnTypes) (toISOString : Nat → String) (tasks : Pid → OutboxTask)
    (pid : Pid) (state : OutboxState Pid) (program : OutboxProgram Nat) : Prop :=
  ∃ stage : OutboxStage,
    stage.program toISOString = program ∧ stage.Traces types (tasks pid) pid state

/-- What other processes do leaves the table evolved and the transaction of this
one as it is, or closes it. -/
structure LeavesAlone (pid : Pid) (before after : OutboxState Pid) : Prop where
  table : Evolves before.store.table after.store.table
  transaction : ∀ opened, after.store.transaction pid = some opened →
    before.store.transaction pid = some opened

theorem leavesAlone_of_sameStore {before after : OutboxState Pid}
    (sameStore : after.store = before.store) (pid : Pid) : LeavesAlone pid before after where
  table := by
    rw [sameStore]
    exact Evolves.refl _
  transaction := by
    intro opened found
    rwa [sameStore] at found

variable {types : ColumnTypes} {toISOString : Nat → String} {tasks : Pid → OutboxTask}
  {pid : Pid} {before after : OutboxState Pid}

theorem InsertsNothing.frame (inserts : InsertsNothing before pid)
    (alone : LeavesAlone pid before after) : InsertsNothing after pid :=
  fun opened found => inserts opened (alone.transaction opened found)

theorem InsertsAll.frame {events : List DomainEvent}
    (inserts : InsertsAll types before pid events) (alone : LeavesAlone pid before after) :
    InsertsAll types after pid events :=
  fun opened found => inserts opened (alone.transaction opened found)

theorem OutboxTraced.frame {program : OutboxProgram Nat}
    (traced : OutboxTraced types toISOString tasks pid before program)
    (alone : LeavesAlone pid before after) :
    OutboxTraced types toISOString tasks pid after program := by
  obtain ⟨stage, same, traces⟩ := traced
  refine ⟨stage, same, ?_⟩
  cases stage with
  | connecting | opening => exact traces
  | selecting batchSize => exact ⟨traces.1, traces.2.frame alone⟩
  | publishing row rest count =>
      obtain ⟨isFlush, inserts, stored⟩ := traces
      exact ⟨isFlush, inserts.frame alone, fun other member =>
        (stored other member).evolves alone.table⟩
  | marking row rest count =>
      obtain ⟨isFlush, inserts, stored⟩ := traces
      exact ⟨isFlush, inserts.frame alone, fun other member =>
        (stored other member).evolves alone.table⟩
  | appending event rest count =>
      obtain ⟨done, isTask, isCount, inserts⟩ := traces
      exact ⟨done, isTask, isCount, inserts.frame alone⟩
  | finishing count =>
      rcases traces with ⟨isFlush, inserts⟩ | ⟨events, isTask, isCount, inserts⟩
      · exact Or.inl ⟨isFlush, inserts.frame alone⟩
      · exact Or.inr ⟨events, isTask, isCount, inserts.frame alone⟩
  | returned count =>
      intro events isTask
      obtain ⟨isCount, stored⟩ := traces events isTask
      exact ⟨isCount, stored.evolves alone.table⟩
  | undoing | threw => trivial

/-! ## One statement -/

/-- What a statement of one process keeps. -/
structure OutboxTrace (types : ColumnTypes) (toISOString : Nat → String)
    (tasks : Pid → OutboxTask) (pid : Pid) (before after : OutboxState Pid)
    (rest : OutboxProgram Nat) : Prop where
  traceable : Traceable types toISOString tasks after
  traced : OutboxTraced types toISOString tasks pid after rest
  others : ∀ other, other ≠ pid → LeavesAlone other before after

/-- A statement that leaves the table alone and touches one transaction. -/
theorem outboxTrace_of_frame {store : TransactionalStore Pid (List OutboxRow) OutboxWrite}
    {rest : OutboxProgram Nat} (traceable : Traceable types toISOString tasks before)
    (frame : store.table = before.store.table ∧
      TransactionalStore.SameElsewhere pid before.store store)
    (traced : OutboxTraced types toISOString tasks pid { before with store := store } rest) :
    OutboxTrace types toISOString tasks pid before { before with store := store } rest where
  traceable := traceable.sameTable frame.1 rfl
  traced := traced
  others := by
    intro other different
    refine ⟨?_, ?_⟩
    · change Evolves before.store.table store.table
      rw [frame.1]
      exact Evolves.refl _
    · intro opened found
      rw [← frame.2 other different]
      exact found

theorem work_begins (toISOString : Nat → String) (task : OutboxTask) (isTask : task = tasks pid)
    (inserts : InsertsAll types before pid []) :
    OutboxTraced types toISOString tasks pid before (workOf toISOString task) := by
  cases task with
  | append events =>
      cases events with
      | nil => exact ⟨.finishing 0, rfl, Or.inr ⟨[], isTask.symm, rfl, inserts⟩⟩
      | cons event rest =>
          exact ⟨.appending event rest _, rfl, [], isTask.symm, rfl, inserts⟩
  | flush batchSize =>
      refine ⟨.selecting batchSize, rfl, isTask.symm, ?_⟩
      intro opened found row
      obtain ⟨_, rows, forAll, isPending⟩ := inserts opened found
      cases forAll
      rw [isPending]
      exact List.not_mem_nil

theorem publishing_begins (toISOString : Nat → String) {batchSize : JsNumber} (count : Nat)
    (isFlush : tasks pid = .flush batchSize) (inserts : InsertsNothing before pid)
    {rows : List OutboxRow} (stored : ∀ row ∈ rows, IsStored before.store.table row) :
    OutboxTraced types toISOString tasks pid before (publishFrom toISOString count rows) := by
  cases rows with
  | nil => exact ⟨.finishing count, rfl, Or.inl ⟨⟨batchSize, isFlush⟩, inserts⟩⟩
  | cons row rest => exact ⟨.publishing row rest count, rfl, ⟨batchSize, isFlush⟩, inserts, stored⟩

theorem appending_begins (toISOString : Nat → String) {done rest : List DomainEvent} {count : Nat}
    (isAppend : tasks pid = .append (done ++ rest)) (isCount : count = (done ++ rest).length)
    (inserts : InsertsAll types before pid done) :
    OutboxTraced types toISOString tasks pid before (appendFrom count rest) := by
  cases rest with
  | nil =>
      rw [List.append_nil] at isAppend isCount
      exact ⟨.finishing count, rfl, Or.inr ⟨done, isAppend, isCount, inserts⟩⟩
  | cons event rest => exact ⟨.appending event rest count, rfl, done, isAppend, isCount, inserts⟩

/-- A statement that inserts nothing is added to the transaction. -/
theorem InsertsNothing.add (inserts : InsertsNothing before pid)
    {opened : Transaction OutboxWrite} (found : before.store.transaction pid = some opened)
    {effects : List OutboxWrite} (none : ∀ row, .insert row ∉ effects) :
    InsertsNothing
      { before with
        store := before.store.withTransaction pid (some ⟨opened.pending ++ effects, false⟩) }
      pid := by
  intro later isLater row member
  rw [TransactionalStore.withTransaction_self] at isLater
  cases isLater
  rcases List.mem_append.mp member with earlier | added
  · exact inserts opened found row earlier
  · exact none row added

theorem InsertsAll.add {done : List DomainEvent} (inserts : InsertsAll types before pid done)
    {opened : Transaction OutboxWrite} (found : before.store.transaction pid = some opened)
    {event : DomainEvent} {row : OutboxRow} (inserted : InsertedAs types event row) :
    InsertsAll types
      { before with
        store :=
          before.store.withTransaction pid (some ⟨opened.pending ++ [.insert row], false⟩) }
      pid (done ++ [event]) := by
  intro later isLater
  rw [TransactionalStore.withTransaction_self] at isLater
  cases isLater
  obtain ⟨_, rows, forAll, isPending⟩ := inserts opened found
  refine ⟨rfl, rows ++ [row], ?_, ?_⟩
  · exact List.rel_append forAll (.cons inserted .nil)
  · rw [isPending, List.map_append, List.map_singleton]

/-- The judgement of an insert adds the row of its event. -/
theorem judgeAppend_accepts {event : DomainEvent} {now : Nat}
    {store : TransactionalStore Pid (List OutboxRow) OutboxWrite}
    {opened : Transaction OutboxWrite} {value : Unit} {effects : List OutboxWrite}
    (judged : judgeAppend types pid event now store opened = .accept value effects) :
    ∃ row, InsertedAs types event row ∧ effects = [.insert row] := by
  unfold judgeAppend at judged
  cases isRow : insertedRow types event now with
  | none =>
      rw [isRow] at judged
      cases judged
  | some row =>
      rw [isRow] at judged
      dsimp only at judged
      split at judged
      · cases judged
      · split at judged
        · cases judged
        · cases judged
          exact ⟨row, ⟨now, isRow⟩, rfl⟩

/-- The judgement of a selection takes rows that the transaction sees. -/
theorem judgeSelectUnpublished_accepts {release : LockRelease} {batchSize : JsNumber}
    {store : TransactionalStore Pid (List OutboxRow) OutboxWrite}
    {opened : Transaction OutboxWrite} {rows : List OutboxRow} {effects : List OutboxWrite}
    (judged : judgeSelectUnpublished types release pid batchSize store opened =
      .accept rows effects) :
    (∀ row ∈ rows, row ∈ visibleOutbox store opened) ∧ ∀ row, .insert row ∉ effects := by
  unfold judgeSelectUnpublished at judged
  split at judged
  · cases judged
  · split at judged
    · cases judged
    · cases judged
      constructor
      · intro row member
        have inBatch := List.mem_of_mem_take member
        rw [List.mem_mergeSort] at inBatch
        exact (List.mem_filter.mp inBatch).1
      · intro row member
        obtain ⟨_, _, isLock⟩ := List.mem_map.mp member
        cases isLock

theorem judgeMarkPublished_accepts {release : LockRelease} {id : String} {now : Nat}
    {store : TransactionalStore Pid (List OutboxRow) OutboxWrite}
    {opened : Transaction OutboxWrite} {value : Unit} {effects : List OutboxWrite}
    (judged : judgeMarkPublished release pid id now store opened = .accept value effects) :
    ∀ row, .insert row ∉ effects := by
  unfold judgeMarkPublished at judged
  intro row member
  split at judged
  · cases judged
    exact List.not_mem_nil member
  · split at judged
    · cases judged
    · cases judged
      simp at member

/-- `COMMIT`, whatever becomes of it. -/
theorem finishing_advances {count : Nat} (fault : Fault)
    (traceable : Traceable types toISOString tasks before)
    (traces : (OutboxStage.finishing count).Traces types (tasks pid) pid before) :
    OutboxTrace types toISOString tasks pid before
      { before with store := (before.store.commit OutboxError.query writeOutbox fault pid).2 }
      (match (before.store.commit OutboxError.query writeOutbox fault pid).1 with
        | .ok _ => .done count
        | .error error => undoOutbox error) := by
  rcases TransactionalStore.commit_cases OutboxError.query writeOutbox fault pid before.store with
    ⟨failed, _⟩ | closed | ⟨opened, reply, found, committed⟩
  · rw [failed]
    exact outboxTrace_of_frame traceable ⟨rfl, fun _ _ => rfl⟩ ⟨.undoing .query, rfl, trivial⟩
  · rw [closed]
    exact outboxTrace_of_frame traceable
      ⟨rfl, TransactionalStore.sameElsewhere_withTransaction pid before.store none⟩
      ⟨.undoing .query, rfl, trivial⟩
  · rw [committed]
    have evolves : Evolves before.store.table (before.store.applied writeOutbox opened) := by
      unfold TransactionalStore.applied
      split
      · exact Evolves.refl _
      · exact evolves_writes _ _
    have others : ∀ other, other ≠ pid → LeavesAlone other before
        { before with
          store :=
            { before.store.withTransaction pid none with
              table := before.store.applied writeOutbox opened } } := by
      intro other different
      refine ⟨evolves, ?_⟩
      intro transaction isOther
      exact (TransactionalStore.withTransaction_other before.store different none).symm.trans
        isOther
    rcases traces with ⟨⟨batchSize, isFlush⟩, inserts⟩ | ⟨events, isAppend, isCount, inserts⟩
    · have old : ∀ row ∈ before.store.applied writeOutbox opened,
          ∃ origin ∈ before.store.table, SameEvent row origin := by
        unfold TransactionalStore.applied
        split
        · exact fun row member => ⟨row, member, SameEvent.refl row⟩
        · intro row member
          obtain ⟨stored, isStored, same⟩ := isStored_of_visible (inserts opened found) member
          exact ⟨stored, isStored, same.symm⟩
      refine ⟨traceable.evolves evolves old rfl, ?_, others⟩
      cases reply with
      | error error => exact ⟨.undoing error, rfl, trivial⟩
      | ok _ =>
          refine ⟨.returned count, rfl, ?_⟩
          intro events isAppend
          rw [isFlush] at isAppend
          cases isAppend
    · obtain ⟨sound, rows, inserted, isPending⟩ := inserts opened found
      have applied : before.store.applied writeOutbox opened = before.store.table ++ rows := by
        rw [TransactionalStore.applied, sound, if_neg Bool.false_ne_true, isPending, foldl_inserts]
      have stored := @Traceable.commit _ types toISOString tasks pid before
        { before with
          store :=
            { before.store.withTransaction pid none with
              table := before.store.applied writeOutbox opened } }
        events rows traceable isAppend inserted applied rfl
      refine ⟨stored.1, ?_, others⟩
      cases reply with
      | error error => exact ⟨.undoing error, rfl, trivial⟩
      | ok _ =>
          refine ⟨.returned count, rfl, ?_⟩
          intro given isGiven
          rw [isAppend] at isGiven
          cases isGiven
          exact ⟨isCount, stored.2⟩

/-- At its stage a process issues a statement that leads it to a further stage. -/
def OutboxStage.Advances (types : ColumnTypes) (toISOString : Nat → String)
    (tasks : Pid → OutboxTask) (pid : Pid) (before : OutboxState Pid) (stage : OutboxStage) :
    Prop :=
  ∀ (release : LockRelease) (choice : OutboxChoice) (statement : OutboxStatement)
    (next : Except OutboxError statement.Reply → OutboxProgram Nat)
    (reply : Except OutboxError statement.Reply) (after : OutboxState Pid),
    stage.program toISOString = .perform statement next →
    stage.Traces types (tasks pid) pid before →
    outboxOutcome types release pid choice statement before = some (reply, after) →
      OutboxTrace types toISOString tasks pid before after (next reply)

theorem connectingStage_advances {task : OutboxTask}
    (traceable : Traceable types toISOString tasks before) :
    (OutboxStage.connecting task).Advances types toISOString tasks pid before := by
  intro release choice statement next reply after same traces outcome
  cases same
  have unchanged : after = before := by
    cases fault : choice.fault <;> simp_all [outboxOutcome]
  subst after
  refine ⟨traceable, ?_, fun other _ =>
        leavesAlone_of_sameStore (by rfl) other⟩
  cases reply with
  | ok _ => exact ⟨.opening task, rfl, traces⟩
  | error error => exact ⟨.threw error, rfl, trivial⟩

/-- `BEGIN`, and the first statement of the work. -/
theorem openingStage_advances {task : OutboxTask}
    (traceable : Traceable types toISOString tasks before) :
    (OutboxStage.opening task).Advances types toISOString tasks pid before := by
  intro release choice statement next reply after same traces outcome
  cases same
  simp only [outboxOutcome, Option.some.injEq, OutboxState.withStore, Prod.mk.injEq] at outcome
  obtain ⟨isReply, rfl⟩ := outcome
  apply outboxTrace_of_frame traceable (TransactionalStore.begin_frame _ _ _ _)
  rcases TransactionalStore.begin_cases OutboxError.query choice.fault pid before.store with
    opened | failed
  · rw [opened] at isReply ⊢
    cases isReply
    apply work_begins toISOString task traces
    intro transaction found
    rw [TransactionalStore.withTransaction_self] at found
    cases found
    exact ⟨rfl, [], .nil, rfl⟩
  · rw [failed] at isReply ⊢
    cases isReply
    exact ⟨.undoing .query, rfl, trivial⟩

/-- What is selected is stored. -/
theorem selectingStage_advances {batchSize : JsNumber}
    (traceable : Traceable types toISOString tasks before) :
    (OutboxStage.selecting batchSize).Advances types toISOString tasks pid before := by
  intro release choice statement next reply after same traces outcome
  cases same
  simp only [outboxOutcome, Option.map_eq_some_iff] at outcome
  obtain ⟨⟨answer, store⟩, executed, rfl, rfl⟩ := outcome
  apply outboxTrace_of_frame traceable (TransactionalStore.statement_frame executed)
  obtain ⟨isFlush, inserts⟩ := traces
  rcases TransactionalStore.statement_cases executed with
    ⟨opened, rows, effects, found, _, judged, rfl, rfl⟩ | ⟨rfl, _⟩
  · obtain ⟨visible, none⟩ := judgeSelectUnpublished_accepts judged
    apply publishing_begins toISOString rows.length isFlush (inserts.add found none)
    intro row member
    exact isStored_of_visible (inserts opened found) (visible row member)
  · exact ⟨.undoing .query, rfl, trivial⟩

/-- The bus accepts the event of a stored row, or the flush is undone. -/
theorem publishingStage_advances {row : OutboxRow} {rest : List OutboxRow} {count : Nat}
    (traceable : Traceable types toISOString tasks before) :
    (OutboxStage.publishing row rest count).Advances types toISOString tasks pid before := by
  intro release choice statement next reply after same traces outcome
  cases same
  obtain ⟨isFlush, inserts, stored⟩ := traces
  simp only [outboxOutcome, Option.some.injEq] at outcome
  have isStored := stored row List.mem_cons_self
  have remaining : ∀ other ∈ rest, IsStored before.store.table other :=
    fun other member => stored other (List.mem_cons_of_mem row member)
  cases fault : choice.fault with
  | none =>
      simp only [publishToBus, fault, Prod.mk.injEq] at outcome
      obtain ⟨rfl, rfl⟩ := outcome
      refine ⟨traceable.accept isStored _, ?_, fun other _ =>
        leavesAlone_of_sameStore (by rfl) other⟩
      exact ⟨.marking row rest count, rfl, isFlush, inserts, remaining⟩
  | acknowledgementLost =>
      simp only [publishToBus, fault, Prod.mk.injEq] at outcome
      obtain ⟨rfl, rfl⟩ := outcome
      refine ⟨traceable.accept isStored _, ?_, fun other _ =>
        leavesAlone_of_sameStore (by rfl) other⟩
      exact ⟨.undoing .publishFailed, rfl, trivial⟩
  | statementError | connectionLost =>
      simp only [publishToBus, fault, Prod.mk.injEq] at outcome
      obtain ⟨rfl, rfl⟩ := outcome
      refine ⟨traceable.sameTable rfl rfl, ?_, fun other _ =>
        leavesAlone_of_sameStore (by rfl) other⟩
      exact ⟨.undoing .publishFailed, rfl, trivial⟩

theorem markingStage_advances {row : OutboxRow} {rest : List OutboxRow} {count : Nat}
    (traceable : Traceable types toISOString tasks before) :
    (OutboxStage.marking row rest count).Advances types toISOString tasks pid before := by
  intro release choice statement next reply after same traces outcome
  cases same
  simp only [outboxOutcome, Option.map_eq_some_iff] at outcome
  obtain ⟨⟨answer, store⟩, executed, rfl, rfl⟩ := outcome
  apply outboxTrace_of_frame traceable (TransactionalStore.statement_frame executed)
  obtain ⟨⟨batchSize, isFlush⟩, inserts, stored⟩ := traces
  rcases TransactionalStore.statement_cases executed with
    ⟨opened, value, effects, found, _, judged, rfl, rfl⟩ | ⟨rfl, _⟩
  · exact publishing_begins toISOString count isFlush
      (inserts.add found (judgeMarkPublished_accepts judged)) stored
  · exact ⟨.undoing .query, rfl, trivial⟩

/-- One more event is inserted. -/
theorem appendingStage_advances {event : DomainEvent} {rest : List DomainEvent} {count : Nat}
    (traceable : Traceable types toISOString tasks before) :
    (OutboxStage.appending event rest count).Advances types toISOString tasks pid before := by
  intro release choice statement next reply after same traces outcome
  cases same
  simp only [outboxOutcome, Option.map_eq_some_iff] at outcome
  obtain ⟨⟨answer, store⟩, executed, rfl, rfl⟩ := outcome
  apply outboxTrace_of_frame traceable (TransactionalStore.statement_frame executed)
  obtain ⟨done, isAppend, isCount, inserts⟩ := traces
  rw [List.append_cons] at isAppend isCount
  rcases TransactionalStore.statement_cases executed with
    ⟨opened, value, effects, found, _, judged, rfl, rfl⟩ | ⟨rfl, _⟩
  · obtain ⟨row, inserted, rfl⟩ := judgeAppend_accepts judged
    exact appending_begins toISOString isAppend isCount (inserts.add found inserted)
  · exact ⟨.undoing .query, rfl, trivial⟩

theorem finishingStage_advances {count : Nat}
    (traceable : Traceable types toISOString tasks before) :
    (OutboxStage.finishing count).Advances types toISOString tasks pid before := by
  intro release choice statement next reply after same traces outcome
  cases same
  simp only [outboxOutcome, Option.some.injEq, OutboxState.withStore, Prod.mk.injEq] at outcome
  obtain ⟨isReply, rfl⟩ := outcome
  have advances := finishing_advances choice.fault traceable traces
  rw [isReply] at advances
  cases reply with
  | ok _ => exact advances
  | error error => exact advances

theorem undoingStage_advances {error : OutboxError}
    (traceable : Traceable types toISOString tasks before) :
    (OutboxStage.undoing error).Advances types toISOString tasks pid before := by
  intro release choice statement next reply after same traces outcome
  cases same
  simp only [outboxOutcome, Option.some.injEq, OutboxState.withStore, Prod.mk.injEq] at outcome
  obtain ⟨isReply, rfl⟩ := outcome
  apply outboxTrace_of_frame traceable (TransactionalStore.rollback_frame _ _ _ _)
  cases reply with
  | ok _ => exact ⟨.threw error, rfl, trivial⟩
  | error failed => exact ⟨.threw failed, rfl, trivial⟩

/-- A statement leads a process to its next stage. -/
theorem OutboxTraced.advance {release : LockRelease} {choice : OutboxChoice}
    {statement : OutboxStatement}
    {next : Except OutboxError statement.Reply → OutboxProgram Nat}
    {reply : Except OutboxError statement.Reply}
    (traceable : Traceable types toISOString tasks before)
    (traced : OutboxTraced types toISOString tasks pid before (.perform statement next))
    (outcome :
      outboxOutcome types release pid choice statement before = some (reply, after)) :
    OutboxTrace types toISOString tasks pid before after (next reply) := by
  obtain ⟨stage, same, traces⟩ := traced
  have advances : stage.Advances types toISOString tasks pid before := by
    cases stage with
    | returned count =>
        intro _ _ _ _ _ _ isOver
        cases isOver
    | threw error =>
        intro _ _ _ _ _ _ isOver
        cases isOver
    | connecting task => exact connectingStage_advances traceable
    | opening task => exact openingStage_advances traceable
    | selecting batchSize => exact selectingStage_advances traceable
    | publishing row rest count => exact publishingStage_advances traceable
    | marking row rest count => exact markingStage_advances traceable
    | appending event rest count => exact appendingStage_advances traceable
    | finishing count => exact finishingStage_advances traceable
    | undoing error => exact undoingStage_advances traceable
  exact advances release choice statement next reply after same traces outcome

/-! ## Whole runs -/

/-- Where the accepted events of a run come from, and what its returned business
transactions have stored. -/
structure EventsTraced (types : ColumnTypes) (toISOString : Nat → String)
    (tasks : Pid → OutboxTask) (world : OutboxWorld Pid) : Prop where
  /-- What the bus has accepted was appended by a business transaction, all of
  whose events are stored. -/
  accepted : ∀ event ∈ world.shared.accepted, ∃ pid events rows row,
    tasks pid = .append events ∧ List.Forall₂ (InsertedAs types) events rows ∧
      (∀ other ∈ rows, IsStored world.shared.store.table other) ∧ row ∈ rows ∧
      eventOfRow toISOString row = event
  /-- A business transaction that has returned has stored all of its events. -/
  returned : ∀ pid events count, tasks pid = .append events →
    world.returned pid = some count →
      count = events.length ∧ AllStored types world.shared.store.table events

theorem traced_start (tasks : Pid → OutboxTask) :
    (outboxStart toISOString tasks).Consistent (Traceable types toISOString tasks)
      (OutboxTraced types toISOString tasks) where
  shared := ⟨fun row member => absurd member List.not_mem_nil,
    fun event member => absurd member List.not_mem_nil⟩
  points := by
    intro pid program starting
    cases starting
    exact ⟨.connecting (tasks pid), ((tasks pid).program_eq toISOString).symm, rfl⟩

theorem traced_step {release : LockRelease} (world : OutboxWorld Pid)
    (event : Event Pid OutboxChoice)
    (consistent : world.Consistent (Traceable types toISOString tasks)
      (OutboxTraced types toISOString tasks)) :
    (world.step (outboxServer types release) event).Consistent
      (Traceable types toISOString tasks) (OutboxTraced types toISOString tasks) := by
  refine @World.Consistent.step _ _ _ _ _ _ _ _ _ _ _ (fun _ _ => True) ?_ ?_ world event
    consistent trivial
  · intro world pid choice statement next reply shared consistent current _ outcome
    have moved := (consistent.points pid _ current).advance consistent.shared outcome
    refine ⟨moved.traceable, moved.traced, ?_⟩
    intro other program different traced
    exact traced.frame (moved.others other different)
  · intro pid state traceable
    refine ⟨traceable.sameTable rfl rfl, ?_⟩
    intro other program traced
    apply traced.frame
    refine ⟨Evolves.refl _, ?_⟩
    intro opened found
    change (state.store.withTransaction pid none).transaction other = _ at found
    by_cases same : other = pid
    · subst other
      rw [TransactionalStore.withTransaction_self] at found
      cases found
    · rwa [TransactionalStore.withTransaction_other _ same] at found

/-- However business transactions and flushes interleave, fail and crash, the bus
accepts only events of business transactions that are stored as a whole, and one
that has returned is stored as a whole. -/
theorem events_traced (types : ColumnTypes) (toISOString : Nat → String) (release : LockRelease)
    (tasks : Pid → OutboxTask) (schedule : List (Event Pid OutboxChoice)) :
    EventsTraced types toISOString tasks
      (Foundations.run (World.step (outboxServer types release)) (outboxStart toISOString tasks)
        schedule) := by
  have consistent := run_invariant_of_step
    (@traced_step _ _ types toISOString tasks release) schedule
    (@traced_start _ _ types toISOString tasks)
  refine ⟨?_, ?_⟩
  · intro event member
    obtain ⟨row, isRow, rfl⟩ := consistent.shared.accepted event member
    obtain ⟨pid, events, rows, inserted, isTask, isInserted, allStored, isMember, same⟩ :=
      consistent.shared.origins row isRow
    exact ⟨pid, events, rows, inserted, isTask, isInserted, allStored, isMember,
      (same.2 toISOString).symm⟩
  · intro pid events count isTask hasReturned
    have isDone := World.returned_eq_some.mp hasReturned
    obtain ⟨stage, same, traces⟩ := consistent.points pid _ isDone
    cases stage with
    | returned _ =>
        cases same
        exact traces events isTask
    | connecting | opening | selecting | publishing | marking | appending | finishing
    | undoing | threw =>
        cases same

end Origins

end PlatformArchitecture.Postgres
