import PlatformArchitecture.Postgres.Inbox

/-!
# The stages of an inbox call

The program of `consumeInboxOnce` as the stages a call passes, what is known
of a call at each stage, and the invariant of the table and its transactions.
Both survive whatever other calls do.
-/

namespace PlatformArchitecture.Postgres

open PlatformArchitecture.Domain
open PlatformArchitecture.Foundations

/-! ## The rest of the program at each stage -/

private def undo (error : InboxError) : InboxProgram Bool :=
  .branch .rollback (fun _ => .fail error) .fail

private def finish (handledNow : Bool) : InboxProgram Bool :=
  .branch .commit (fun _ => .done handledNow) undo

private def record (call : InboxCall) : InboxProgram Bool :=
  .branch (.insert call.event.eventId call.consumerName call.event.tenantId)
    (fun _ => finish true) undo

private def handle (call : InboxCall) : InboxProgram Bool :=
  .branch .handler (fun _ => record call) undo

private def look (call : InboxCall) : InboxProgram Bool :=
  .branch (.selectSeen call.event.eventId)
    (fun seen => if seen ≠ 0 then finish false else handle call) undo

private def openTransaction (call : InboxCall) : InboxProgram Bool :=
  .branch .begin (fun _ => look call) undo

/-- Where a call stands. -/
inductive InboxStage where
  | connecting
  | opening
  | looking
  | handling
  | recording
  | finishing (handledNow : Bool)
  | undoing (error : InboxError)
  | threw (error : InboxError)
  | returned (handledNow : Bool)

/-- What is left of the program of a call at a stage. -/
def InboxStage.program (call : InboxCall) : InboxStage → InboxProgram Bool
  | .connecting => .branch .connect (fun _ => openTransaction call) .fail
  | .opening => openTransaction call
  | .looking => look call
  | .handling => handle call
  | .recording => record call
  | .finishing handledNow => finish handledNow
  | .undoing error => undo error
  | .threw error => .fail error
  | .returned handledNow => .done handledNow

theorem consumeInboxOnce_eq (call : InboxCall) :
    consumeInboxOnce call.consumerName call.event =
      InboxStage.connecting.program call := by
  simp only [consumeInboxOnce, awaitInbox, Program.call_bind, Program.branch_orElse,
    Program.ite_orElse, Program.pure_eq, Program.throw_eq, Program.done_orElse,
    Program.fail_orElse]
  rfl

/-! ## The invariant -/

section Invariant

variable {Pid : Type} [DecidableEq Pid]

/-- A row belongs to the call that wrote it, whose handler has completed. -/
structure Recorded (types : ColumnTypes) (calls : Pid → InboxCall)
    (handled : List Pid) (row : InboxRow Pid) : Prop where
  consumer : (calls row.insertedBy).consumerName = row.consumerName
  event : types.uuid (calls row.insertedBy).event.eventId = some row.eventId
  handled : row.insertedBy ∈ handled

/-- Keys are unique, and every row written belongs to its call. -/
structure InboxInvariant (types : ColumnTypes) (calls : Pid → InboxCall)
    (state : InboxState Pid) : Prop where
  unique : state.store.UniqueKeys (List.map InboxRow.eventId) inboxKeys
  recorded : ∀ row ∈ state.store.table, Recorded types calls state.handled row
  handledOnce : state.handled.Nodup
  pendingRecorded : ∀ pid opened,
    state.store.transaction pid = some opened →
      ∀ row ∈ opened.pending,
        row.insertedBy = pid ∧ Recorded types calls state.handled row

/-- A process writes nothing when its transaction ends. -/
def NothingPending (state : InboxState Pid) (pid : Pid) : Prop :=
  ∀ opened, state.store.transaction pid = some opened → opened.pending = []

/-- What is known of a call at a stage. -/
def InboxStage.Holds (types : ColumnTypes) (call : InboxCall) (pid : Pid)
    (state : InboxState Pid) : InboxStage → Prop
  | .connecting | .opening | .looking | .handling =>
      pid ∉ state.handled ∧ NothingPending state pid
  | .recording => pid ∈ state.handled ∧ NothingPending state pid
  | .finishing true =>
      pid ∈ state.handled ∧
        ∀ opened, state.store.transaction pid = some opened →
          opened.aborted = false ∧ ∃ row ∈ opened.pending, row.insertedBy = pid
  | .finishing false | .returned false =>
      pid ∉ state.handled ∧
        ∃ row ∈ state.store.table,
          types.uuid call.event.eventId = some row.eventId ∧
            row.consumerName = call.consumerName
  | .returned true => ∃ row ∈ state.store.table, row.insertedBy = pid
  | .undoing _ | .threw _ => True

/-- The rest of the program of a call is that of a stage whose facts hold. -/
def AtStage (types : ColumnTypes) (calls : Pid → InboxCall) (pid : Pid)
    (state : InboxState Pid) (program : InboxProgram Bool) : Prop :=
  ∃ stage : InboxStage,
    stage.program (calls pid) = program ∧ stage.Holds types (calls pid) pid state

/-- The facts of a stage survive when nothing is added to the transaction of
the call, no row disappears and its handler is not run. -/
theorem InboxStage.Holds.mono {types : ColumnTypes} {call : InboxCall} {pid : Pid}
    {before after : InboxState Pid}
    (transaction : ∀ opened, after.store.transaction pid = some opened →
      before.store.transaction pid = some opened)
    (table : ∀ row ∈ before.store.table, row ∈ after.store.table)
    (handled : pid ∈ after.handled ↔ pid ∈ before.handled)
    {stage : InboxStage} (holds : stage.Holds types call pid before) :
    stage.Holds types call pid after := by
  cases stage with
  | connecting | opening | looking | handling =>
      exact ⟨fun member => holds.1 (handled.mp member),
        fun opened found => holds.2 opened (transaction opened found)⟩
  | recording =>
      exact ⟨handled.mpr holds.1,
        fun opened found => holds.2 opened (transaction opened found)⟩
  | finishing handledNow =>
      cases handledNow with
      | true =>
          exact ⟨handled.mpr holds.1,
            fun opened found => holds.2 opened (transaction opened found)⟩
      | false =>
          obtain ⟨unhandled, row, member, same⟩ := holds
          exact ⟨fun now => unhandled (handled.mp now), row, table row member, same⟩
  | undoing error => trivial
  | threw error => trivial
  | returned handledNow =>
      cases handledNow with
      | true =>
          obtain ⟨row, member, same⟩ := holds
          exact ⟨row, table row member, same⟩
      | false =>
          obtain ⟨unhandled, row, member, same⟩ := holds
          exact ⟨fun now => unhandled (handled.mp now), row, table row member, same⟩

/-! ## What the operations on the store keep -/

variable {types : ColumnTypes} {calls : Pid → InboxCall} {state : InboxState Pid}

/-- Replacing the transaction of a call by one whose rows belong to it. -/
theorem InboxInvariant.replace (holds : InboxInvariant types calls state) {pid : Pid}
    {transaction : Option (Transaction (InboxRow Pid))}
    (unique : (state.store.withTransaction pid transaction).UniqueKeys
      (List.map InboxRow.eventId) inboxKeys)
    (recorded : ∀ opened, transaction = some opened → ∀ row ∈ opened.pending,
      row.insertedBy = pid ∧ Recorded types calls state.handled row) :
    InboxInvariant types calls
      { state with store := state.store.withTransaction pid transaction } where
  unique := unique
  recorded := holds.recorded
  handledOnce := holds.handledOnce
  pendingRecorded :=
    TransactionalStore.forall_withTransaction recorded holds.pendingRecorded

theorem InboxInvariant.close (holds : InboxInvariant types calls state) (pid : Pid) :
    InboxInvariant types calls
      { state with store := state.store.withTransaction pid none } :=
  holds.replace (holds.unique.close pid) (by simp)

theorem InboxInvariant.openEmpty (holds : InboxInvariant types calls state)
    (pid : Pid) :
    InboxInvariant types calls
      { state with store := state.store.withTransaction pid (some ⟨[], false⟩) } := by
  apply holds.replace (holds.unique.openEmpty pid)
  intro opened same row member
  cases same
  cases member

theorem InboxInvariant.abort (holds : InboxInvariant types calls state) {pid : Pid}
    {opened : Transaction (InboxRow Pid)}
    (found : state.store.transaction pid = some opened) :
    InboxInvariant types calls
      { state with
        store :=
          state.store.withTransaction pid (some { opened with aborted := true }) } := by
  apply holds.replace (holds.unique.abort pid opened.pending)
  intro aborted same row member
  cases same
  exact holds.pendingRecorded pid opened found row member

/-- The handler of a call that has not run it completes. -/
theorem InboxInvariant.handle (holds : InboxInvariant types calls state) {pid : Pid}
    (unhandled : pid ∉ state.handled) :
    InboxInvariant types calls { state with handled := pid :: state.handled } :=
  have keeps : ∀ row, Recorded types calls state.handled row →
      Recorded types calls (pid :: state.handled) row := fun _ recorded =>
    ⟨recorded.consumer, recorded.event, List.mem_cons_of_mem _ recorded.handled⟩
  { holds with
    recorded := fun row member => keeps row (holds.recorded row member)
    handledOnce := List.nodup_cons.mpr ⟨unhandled, holds.handledOnce⟩
    pendingRecorded := fun owner opened found row member =>
      ⟨(holds.pendingRecorded owner opened found row member).1,
        keeps row (holds.pendingRecorded owner opened found row member).2⟩ }

/-! ## What each statement does -/

/-- The part of the inbox other calls rely on: it only grows, and one call
neither touches the transactions of the others nor runs their handlers. -/
structure InboxFrame (pid : Pid) (before after : InboxState Pid) : Prop where
  table : ∀ row ∈ before.store.table, row ∈ after.store.table
  transactions : TransactionalStore.SameElsewhere pid before.store after.store
  handled : ∀ other, other ≠ pid → (other ∈ after.handled ↔ other ∈ before.handled)

theorem AtStage.frame {pid other : Pid} {after : InboxState Pid}
    {program : InboxProgram Bool} (frame : InboxFrame pid state after)
    (different : other ≠ pid) (standing : AtStage types calls other state program) :
    AtStage types calls other after program := by
  obtain ⟨stage, same, holds⟩ := standing
  refine ⟨stage, same, holds.mono ?_ frame.table (frame.handled other different)⟩
  intro opened found
  rwa [frame.transactions other different] at found

theorem AtStage.disconnect {pid other : Pid} {program : InboxProgram Bool}
    (standing : AtStage types calls other state program) :
    AtStage types calls other
      { state with store := state.store.withTransaction pid none } program := by
  obtain ⟨stage, same, holds⟩ := standing
  refine ⟨stage, same, holds.mono ?_ ?_ ?_⟩
  · intro opened found
    by_cases own : other = pid
    · subst other
      simp at found
    · rwa [TransactionalStore.withTransaction_other _ own] at found
  · exact fun _ member => member
  · exact Iff.rfl

/-- A statement that fails adds nothing. -/
private theorem failed_keeps {pid : Pid}
    {after : TransactionalStore Pid (List (InboxRow Pid)) (InboxRow Pid)}
    (holds : InboxInvariant types calls state)
    (failed : after = state.store ∨ after = state.store.withTransaction pid none ∨
      ∃ transaction, state.store.transaction pid = some transaction ∧
        after =
          state.store.withTransaction pid (some { transaction with aborted := true })) :
    InboxInvariant types calls { state with store := after } := by
  rcases failed with rfl | rfl | ⟨opened, found, rfl⟩
  · exact holds
  · exact holds.close pid
  · exact holds.abort found

theorem begin_keeps (holds : InboxInvariant types calls state) {pid : Pid}
    (fault : Fault) (nothing : NothingPending state pid) :
    let after := (state.withStore (state.store.begin InboxError.query fault pid)).2
    InboxInvariant types calls after ∧ InboxFrame pid state after ∧
      NothingPending after pid := by
  intro after
  have frame := state.store.begin_frame InboxError.query fault pid
  have sameTable : after.store.table = state.store.table := frame.1
  refine ⟨?_, ⟨fun row member => by rwa [sameTable], frame.2, fun _ _ => Iff.rfl⟩, ?_⟩
  · rcases state.store.begin_cases InboxError.query fault pid with opened | failed
    · simpa [after, InboxState.withStore, opened] using holds.openEmpty pid
    · simpa [after, InboxState.withStore, failed] using holds
  · intro opened found
    rcases state.store.begin_cases InboxError.query fault pid with begun | failed
    · simp only [after, InboxState.withStore, begun,
        TransactionalStore.withTransaction_self, Option.some.injEq] at found
      rw [← found]
    · simp only [after, InboxState.withStore, failed] at found
      exact nothing opened found

/-- What a lookup that answers has seen is committed. -/
theorem selectSeen_keeps (holds : InboxInvariant types calls state) {pid : Pid}
    {fault : Fault} {eventId : String} {reply : Except InboxError Nat}
    {after : TransactionalStore Pid (List (InboxRow Pid)) (InboxRow Pid)}
    (nothing : NothingPending state pid)
    (outcome :
      state.store.statement .query (judgeSelectSeen types eventId state.store)
        fault pid = some (reply, after)) :
    InboxInvariant types calls { state with store := after } ∧
      NothingPending { state with store := after } pid ∧
        ∀ seen, reply = .ok seen → seen ≠ 0 →
          ∃ row ∈ after.table, types.uuid eventId = some row.eventId := by
  have sameTable := (TransactionalStore.statement_frame outcome).1
  rcases TransactionalStore.statement_cases outcome with
    ⟨opened, value, effects, found, sound, judged, answered, rfl⟩ | ⟨failed, left⟩
  · have unwritten : opened.pending = [] := nothing opened found
    unfold judgeSelectSeen at judged
    cases accepted : types.uuid eventId with
    | none => simp [accepted] at judged
    | some id =>
        simp only [accepted, visibleRows, unwritten, List.append_nil,
          Verdict.accept.injEq] at judged
        obtain ⟨counted, rfl⟩ := judged
        rw [unwritten, List.append_nil]
        refine ⟨holds.openEmpty pid, ?_, ?_⟩
        · intro now nowFound
          simp only [TransactionalStore.withTransaction_self, Option.some.injEq]
            at nowFound
          rw [← nowFound]
        · intro seen same some
          rw [answered] at same
          cases same
          have positive : 0 < value := Nat.pos_of_ne_zero some
          rw [← counted, List.countP_pos_iff] at positive
          obtain ⟨row, member, equal⟩ := positive
          exact ⟨row, member, by simpa using (of_decide_eq_true equal).symm⟩
  · refine ⟨failed_keeps holds left, ?_, ?_⟩
    · intro now nowFound
      rcases left with rfl | rfl | ⟨opened, found, rfl⟩
      · exact nothing now nowFound
      · simp at nowFound
      · simp only [TransactionalStore.withTransaction_self, Option.some.injEq]
          at nowFound
        rw [← nowFound]
        exact nothing opened found
    · intro seen same
      rw [failed] at same
      cases same

/-- An insert that is answered leaves the row of the call in a transaction
that no other open transaction conflicts with. -/
theorem insert_keeps (holds : InboxInvariant types calls state) {pid : Pid}
    {fault : Fault} {reply : Except InboxError Unit}
    {after : TransactionalStore Pid (List (InboxRow Pid)) (InboxRow Pid)}
    (nothing : NothingPending state pid) (handled : pid ∈ state.handled)
    (outcome :
      state.store.statement .query
        (judgeInsert types pid (calls pid).event.eventId (calls pid).consumerName
          (calls pid).event.tenantId state.store) fault pid = some (reply, after)) :
    InboxInvariant types calls { state with store := after } ∧
      (reply = .ok () → ∀ opened, after.transaction pid = some opened →
        opened.aborted = false ∧ ∃ row ∈ opened.pending, row.insertedBy = pid) := by
  rcases TransactionalStore.statement_cases outcome with
    ⟨opened, value, effects, found, sound, judged, answered, rfl⟩ | ⟨failed, left⟩
  · have unwritten : opened.pending = [] := nothing opened found
    unfold judgeInsert at judged
    split at judged
    · next id tenant accepted _ =>
      rw [visibleRows, unwritten, List.append_nil] at judged
      split at judged
      · cases judged
      · next free =>
        split at judged
        · cases judged
        · next alone =>
          simp only [Verdict.accept.injEq, true_and] at judged
          subst effects
          constructor
          · apply holds.replace
            · apply holds.unique.insert found sound rfl
              · rw [unwritten, List.flatMap_nil, List.append_nil]
                intro taken
                obtain ⟨row, member, equal⟩ := List.mem_map.mp taken
                exact free (List.any_eq_true.mpr ⟨row, member, by simpa using equal⟩)
              · simpa using alone
            · intro now same row member
              cases same
              simp only [unwritten, List.nil_append, List.mem_singleton] at member
              subst row
              exact ⟨rfl, rfl, accepted, handled⟩
          · intro _ now nowFound
            simp only [TransactionalStore.withTransaction_self, Option.some.injEq]
              at nowFound
            subst now
            exact ⟨rfl, _, List.mem_append_right _ (List.mem_singleton_self _), rfl⟩
    · cases judged
  · refine ⟨failed_keeps holds left, ?_⟩
    intro same
    rw [failed] at same
    cases same

/-- The rows of a transaction that commits are committed, and keep their
keys distinct from all others. -/
theorem commit_keeps (holds : InboxInvariant types calls state) (fault : Fault)
    (pid : Pid) :
    let outcome := state.store.commit InboxError.query insertRow fault pid
    InboxInvariant types calls { state with store := outcome.2 } ∧
      (∀ row ∈ state.store.table, row ∈ outcome.2.table) ∧
        (outcome.1 = .ok () →
          ∃ opened, state.store.transaction pid = some opened ∧
            (opened.aborted = false →
              ∀ row ∈ opened.pending, row ∈ outcome.2.table)) := by
  intro outcome
  rcases state.store.commit_cases InboxError.query insertRow fault pid with
    ⟨failed, _⟩ | closed | ⟨opened, reply, found, committed⟩
  · simp only [outcome, failed, reduceCtorEq, false_implies, and_true]
    exact ⟨holds, fun _ member => member⟩
  · simp only [outcome, closed, reduceCtorEq, false_implies, and_true]
    exact ⟨holds.close pid, fun _ member => member⟩
  · simp only [outcome, committed]
    have applied : state.store.applied insertRow opened =
        if opened.aborted then state.store.table
        else state.store.table ++ opened.pending := by
      rw [TransactionalStore.applied, foldl_insertRow]
    have keys : ∀ rows : List (InboxRow Pid),
        rows.flatMap inboxKeys = rows.map InboxRow.eventId := fun rows =>
      List.map_eq_flatMap.symm
    have unique :
        TransactionalStore.UniqueKeys (List.map InboxRow.eventId) inboxKeys
          { state.store.withTransaction pid none with
            table := state.store.applied insertRow opened } := by
      apply holds.unique.commit found
      · intro aborted
        rw [applied, if_pos aborted]
      · intro sound
        rw [applied, if_neg (by simp [sound]), List.map_append, keys]
    have member : ∀ row ∈ state.store.applied insertRow opened,
        row ∈ state.store.table ∨ row ∈ opened.pending := by
      intro row member
      rw [applied] at member
      split at member
      · exact Or.inl member
      · exact List.mem_append.mp member
    refine ⟨⟨unique, ?_, holds.handledOnce, (holds.close pid).pendingRecorded⟩, ?_, ?_⟩
    · intro row present
      rcases member row present with old | new
      · exact holds.recorded row old
      · exact (holds.pendingRecorded pid opened found row new).2
    · intro row old
      rw [applied]
      split
      · exact old
      · exact List.mem_append_left _ old
    · intro _
      refine ⟨opened, found, ?_⟩
      intro sound row new
      rw [applied, if_neg (by simp [sound])]
      exact List.mem_append_right _ new

theorem rollbackInbox_keeps (holds : InboxInvariant types calls state) (fault : Fault)
    (pid : Pid) :
    let after := (state.withStore (state.store.rollback InboxError.query fault pid)).2
    InboxInvariant types calls after ∧ InboxFrame pid state after := by
  intro after
  have frame := state.store.rollback_frame InboxError.query fault pid
  have sameTable : after.store.table = state.store.table := frame.1
  refine ⟨?_, fun row member => by rwa [sameTable], frame.2, fun _ _ => Iff.rfl⟩
  rcases state.store.rollback_cases InboxError.query fault pid with ⟨unchanged, _⟩ | closed
  · simpa only [after, InboxState.withStore, unchanged] using holds
  · simpa only [after, InboxState.withStore, closed] using holds.close pid

end Invariant

end PlatformArchitecture.Postgres
