import Mathlib.Data.List.Nodup
import PlatformArchitecture.Postgres.InboxCalls

/-!
# Idempotent consumption per consumer

Over any schedule of calls, failures, lost connections and crashes, a handler
completes at most once among the calls of one consumer that return for one
event.  That a call which answers `false` belongs to a consumer that handled
the event is true of the schedules in which no lookup meets a committed row
that another consumer wrote for the same event.
-/

namespace PlatformArchitecture.Postgres

open PlatformArchitecture.Domain
open PlatformArchitecture.Foundations

section Calls

variable {Pid : Type} [DecidableEq Pid] {types : ColumnTypes}
  {calls : Pid → InboxCall} {state : InboxState Pid}

/-- Every committed row of the event of a call was written by its consumer. -/
def OwnRowsOnly (types : ColumnTypes) (call : InboxCall) (state : InboxState Pid) :
    Prop :=
  ∀ row ∈ state.store.table, types.uuid call.event.eventId = some row.eventId →
    row.consumerName = call.consumerName

instance (types : ColumnTypes) (call : InboxCall) (state : InboxState Pid) :
    Decidable (OwnRowsOnly types call state) :=
  inferInstanceAs (Decidable (∀ row ∈ state.store.table, _ → _))

private theorem frameOfSameTable {pid : Pid}
    {after : TransactionalStore Pid (List (InboxRow Pid)) (InboxRow Pid)}
    (sameTable : after.table = state.store.table)
    (elsewhere : TransactionalStore.SameElsewhere pid state.store after) :
    InboxFrame pid state { state with store := after } :=
  ⟨fun _ member => by rwa [← sameTable] at member, elsewhere, fun _ _ => Iff.rfl⟩

/-- At its stage a call issues a statement that keeps the invariant and leads it
to a further stage. -/
def InboxStage.Keeps (types : ColumnTypes) (calls : Pid → InboxCall) (pid : Pid)
    (state : InboxState Pid) (stage : InboxStage) : Prop :=
  ∀ (fault : Fault) (statement : InboxStatement)
    (next : Except InboxError statement.Reply → InboxProgram Bool)
    (reply : Except InboxError statement.Reply) (after : InboxState Pid),
    stage.program (calls pid) = .perform statement next →
    stage.Holds types (calls pid) pid state →
    (∀ eventId, statement = .selectSeen eventId → OwnRowsOnly types (calls pid) state) →
    inboxOutcome types pid fault statement state = some (reply, after) →
      InboxInvariant types calls after ∧ AtStage types calls pid after (next reply) ∧
        InboxFrame pid state after

section StageSteps

variable {pid : Pid}

theorem connectingCall_keeps (holds : InboxInvariant types calls state) :
    InboxStage.connecting.Keeps types calls pid state := by
  intro fault statement next reply after same facts _ownRows outcome
  cases same
  have unchanged : after = state := by
    cases fault <;> simp_all [inboxOutcome]
  subst after
  refine ⟨holds, ?_, ⟨fun _ member => member, fun _ _ => rfl, fun _ _ => Iff.rfl⟩⟩
  cases reply with
  | ok _ => exact ⟨.opening, rfl, facts⟩
  | error error => exact ⟨.threw error, rfl, trivial⟩

theorem openingCall_keeps (holds : InboxInvariant types calls state) :
    InboxStage.opening.Keeps types calls pid state := by
  intro fault statement next reply after same facts _ownRows outcome
  cases same
  simp only [inboxOutcome, Option.some.injEq] at outcome
  obtain ⟨kept, frame, nothing⟩ := begin_keeps holds fault facts.2
  rw [outcome] at kept frame nothing
  refine ⟨kept, ?_, frame⟩
  cases reply with
  | ok _ =>
      have unhandled : pid ∉ after.handled := by
        have sameHandled : after.handled = state.handled :=
          congrArg (fun answer => answer.2.handled) outcome.symm
        rw [sameHandled]
        exact facts.1
      exact ⟨.looking, rfl, unhandled, nothing⟩
  | error error => exact ⟨.undoing error, rfl, trivial⟩

/-- A lookup that finds a row finds one of its consumer, and the call is over. -/
theorem lookingCall_keeps (holds : InboxInvariant types calls state) :
    InboxStage.looking.Keeps types calls pid state := by
  intro fault statement next reply after same facts ownRows outcome
  cases same
  simp only [inboxOutcome, Option.map_eq_some_iff] at outcome
  obtain ⟨⟨answer, store⟩, executed, rfl, rfl⟩ := outcome
  obtain ⟨kept, nothing, seenRow⟩ := selectSeen_keeps holds facts.2 executed
  obtain ⟨sameTable, elsewhere⟩ := TransactionalStore.statement_frame executed
  refine ⟨kept, ?_, frameOfSameTable sameTable elsewhere⟩
  cases answer with
  | error error => exact ⟨.undoing error, rfl, trivial⟩
  | ok seen =>
      by_cases some : seen ≠ 0
      · obtain ⟨row, member, sameEvent⟩ := seenRow seen rfl some
        have committed : row ∈ state.store.table := by
          rwa [sameTable] at member
        refine ⟨.finishing false, by simp [InboxStage.program, some], facts.1, row,
          member, sameEvent, ?_⟩
        exact ownRows _ rfl row committed sameEvent
      · exact ⟨.handling, by simp [InboxStage.program, some], facts.1, nothing⟩

/-- The handler completes, or the call is undone. -/
theorem handlingCall_keeps (holds : InboxInvariant types calls state) :
    InboxStage.handling.Keeps types calls pid state := by
  intro fault statement next reply after same facts _ownRows outcome
  cases same
  cases fault with
  | none =>
      simp only [inboxOutcome, Option.some.injEq, Prod.mk.injEq] at outcome
      obtain ⟨rfl, rfl⟩ := outcome
      refine ⟨holds.handle facts.1, ⟨.recording, rfl, ?_, facts.2⟩, ?_⟩
      · exact List.mem_cons_self
      · exact ⟨fun _ member => member, fun _ _ => rfl, fun other different => by
          simp [different]⟩
  | statementError | connectionLost | acknowledgementLost =>
      simp only [inboxOutcome, Option.some.injEq, Prod.mk.injEq] at outcome
      obtain ⟨rfl, rfl⟩ := outcome
      exact ⟨holds, ⟨.undoing .handlerThrew, rfl, trivial⟩,
        fun _ member => member, fun _ _ => rfl, fun _ _ => Iff.rfl⟩

theorem recordingCall_keeps (holds : InboxInvariant types calls state) :
    InboxStage.recording.Keeps types calls pid state := by
  intro fault statement next reply after same facts _ownRows outcome
  cases same
  simp only [inboxOutcome, Option.map_eq_some_iff] at outcome
  obtain ⟨⟨answer, store⟩, executed, rfl, rfl⟩ := outcome
  obtain ⟨kept, written⟩ := insert_keeps holds facts.2 facts.1 executed
  obtain ⟨sameTable, elsewhere⟩ := TransactionalStore.statement_frame executed
  refine ⟨kept, ?_, frameOfSameTable sameTable elsewhere⟩
  cases answer with
  | ok _ => exact ⟨.finishing true, rfl, facts.1, written rfl⟩
  | error error => exact ⟨.undoing error, rfl, trivial⟩

/-- `COMMIT`: what a call answers is now in the table. -/
theorem finishingCall_keeps {handledNow : Bool} (holds : InboxInvariant types calls state) :
    (InboxStage.finishing handledNow).Keeps types calls pid state := by
  intro fault statement next reply after same facts _ownRows outcome
  cases same
  simp only [inboxOutcome, Option.some.injEq] at outcome
  obtain ⟨kept, grows, written⟩ := commit_keeps holds fault pid
  have elsewhere :=
    state.store.commit_sameElsewhere InboxError.query insertRow fault pid
  obtain ⟨rfl, rfl⟩ := Prod.ext_iff.mp outcome
  refine ⟨kept, ?_, grows, elsewhere, fun _ _ => Iff.rfl⟩
  simp only [InboxState.withStore]
  cases answer : (state.store.commit InboxError.query insertRow fault pid).1 with
  | error error => exact ⟨.undoing error, rfl, trivial⟩
  | ok _ =>
      refine ⟨.returned handledNow, rfl, ?_⟩
      cases handledNow with
      | false =>
          obtain ⟨unhandled, row, member, own⟩ := facts
          exact ⟨unhandled, row, grows row member, own⟩
      | true =>
          obtain ⟨opened, found, committed⟩ := written answer
          obtain ⟨sound, row, member, mine⟩ := facts.2 opened found
          exact ⟨row, committed sound row member, mine⟩

theorem undoingCall_keeps {error : InboxError} (holds : InboxInvariant types calls state) :
    (InboxStage.undoing error).Keeps types calls pid state := by
  intro fault statement next reply after same _facts _ownRows outcome
  cases same
  simp only [inboxOutcome, Option.some.injEq] at outcome
  obtain ⟨kept, frame⟩ := rollbackInbox_keeps holds fault pid
  rw [outcome] at kept frame
  refine ⟨kept, ?_, frame⟩
  cases reply with
  | ok _ => exact ⟨.threw error, rfl, trivial⟩
  | error failed => exact ⟨.threw failed, rfl, trivial⟩

end StageSteps

/-- A statement leads a call to its next stage. -/
theorem AtStage.advance {pid : Pid} {fault : Fault} {statement : InboxStatement}
    {next : Except InboxError statement.Reply → InboxProgram Bool}
    {reply : Except InboxError statement.Reply} {after : InboxState Pid}
    (holds : InboxInvariant types calls state)
    (standing : AtStage types calls pid state (.perform statement next))
    (ownRows : ∀ eventId, statement = .selectSeen eventId →
      OwnRowsOnly types (calls pid) state)
    (outcome : inboxOutcome types pid fault statement state = some (reply, after)) :
    InboxInvariant types calls after ∧ AtStage types calls pid after (next reply) ∧
      InboxFrame pid state after := by
  obtain ⟨stage, same, facts⟩ := standing
  have keeps : stage.Keeps types calls pid state := by
    cases stage with
    | returned handledNow =>
        intro _ _ _ _ _ isOver
        cases isOver
    | threw error =>
        intro _ _ _ _ _ isOver
        cases isOver
    | connecting => exact connectingCall_keeps holds
    | opening => exact openingCall_keeps holds
    | looking => exact lookingCall_keeps holds
    | handling => exact handlingCall_keeps holds
    | recording => exact recordingCall_keeps holds
    | finishing handledNow => exact finishingCall_keeps holds
    | undoing error => exact undoingCall_keeps holds
  exact keeps fault statement next reply after same facts ownRows outcome

end Calls

/-! ## Whole schedules -/

section Schedules

variable {Pid : Type} [DecidableEq Pid]

/-- The call whose lookup is next, if the event is a lookup. -/
def lookupOf (world : InboxWorld Pid) : Event Pid Fault → Option Pid
  | .statement pid _ =>
      match world.programs pid with
      | some (.perform (.selectSeen _) _) => some pid
      | _ => none
  | _ => none

/-- A lookup finds no row of its event that another consumer wrote. -/
def LooksUpOwnRows (types : ColumnTypes) (calls : Pid → InboxCall)
    (world : InboxWorld Pid) (event : Event Pid Fault) : Prop :=
  ∀ pid ∈ lookupOf world event, OwnRowsOnly types (calls pid) world.shared

instance (types : ColumnTypes) (calls : Pid → InboxCall) (world : InboxWorld Pid)
    (event : Event Pid Fault) : Decidable (LooksUpOwnRows types calls world event) :=
  inferInstanceAs (Decidable (∀ pid ∈ lookupOf world event, _))

/-- What idempotent consumption promises of the calls made so far. -/
structure ConsumedOnce (types : ColumnTypes) (calls : Pid → InboxCall)
    (world : InboxWorld Pid) : Prop where
  /-- The handler of a consumer completes at most once for an event among the
  calls that return. -/
  once : ∀ first second,
    (world.returned first).isSome → first ∈ world.shared.handled →
    (world.returned second).isSome → second ∈ world.shared.handled →
      (calls first).consumerName = (calls second).consumerName →
      types.uuid (calls first).event.eventId = types.uuid (calls second).event.eventId →
        first = second
  oncePerCall : world.shared.handled.Nodup
  /-- A call that answers `false` is told so of a consumer that handled the
  event. -/
  told : ∀ pid, world.returned pid = some false →
    ∃ earlier ∈ world.shared.handled,
      (∃ row ∈ world.shared.store.table, row.insertedBy = earlier) ∧
        (calls earlier).consumerName = (calls pid).consumerName ∧
        types.uuid (calls earlier).event.eventId = types.uuid (calls pid).event.eventId

abbrev ConsistentInbox (types : ColumnTypes) (calls : Pid → InboxCall)
    (world : InboxWorld Pid) : Prop :=
  world.Consistent (InboxInvariant types calls) (AtStage types calls)

theorem inboxStart_consistent (types : ColumnTypes) (calls : Pid → InboxCall) :
    ConsistentInbox types calls (inboxStart calls) where
  shared :=
    { unique := ⟨List.nodup_nil, by rintro _ _ ⟨⟩, by rintro _ _ _ _ _ ⟨⟩⟩
      recorded := fun row member => by cases member
      handledOnce := List.nodup_nil
      pendingRecorded := fun pid opened found => by cases found }
  points := by
    intro pid program starting
    cases starting
    refine ⟨.connecting, (consumeInboxOnce_eq (calls pid)).symm, ?_, ?_⟩
    · exact List.not_mem_nil
    · intro opened found
      cases found

theorem consistentInbox_step {types : ColumnTypes} {calls : Pid → InboxCall}
    (world : InboxWorld Pid) (event : Event Pid Fault)
    (consistent : ConsistentInbox types calls world)
    (ownRows : LooksUpOwnRows types calls world event) :
    ConsistentInbox types calls (world.step (inboxServer types) event) := by
  refine World.Consistent.step ?_ ?_ consistent ownRows
  · intro world pid fault statement next reply shared consistent current ownRows outcome
    have looked : ∀ eventId, statement = .selectSeen eventId →
        OwnRowsOnly types (calls pid) world.shared := by
      rintro eventId rfl
      exact ownRows pid (by simp [lookupOf, current])
    obtain ⟨kept, standing, frame⟩ :=
      AtStage.advance consistent.shared (consistent.points pid _ current) looked outcome
    exact ⟨kept, standing, fun other program different => AtStage.frame frame different⟩
  · intro pid state holds
    exact ⟨holds.close pid, fun other program standing => standing.disconnect⟩

theorem returned_holds {types : ColumnTypes} {calls : Pid → InboxCall}
    {world : InboxWorld Pid} (consistent : ConsistentInbox types calls world)
    {pid : Pid} {handledNow : Bool} (returned : world.returned pid = some handledNow) :
    (InboxStage.returned handledNow).Holds types (calls pid) pid world.shared := by
  obtain ⟨stage, same, facts⟩ :=
    consistent.points pid _ (World.returned_eq_some.mp returned)
  cases stage with
  | returned answer =>
      cases same
      exact facts
  | connecting | opening | looking | handling | recording => cases same
  | finishing | undoing | threw => cases same

/-- Among the returned calls only those that answer `true` ran the handler,
and their rows are committed. -/
private theorem row_of_handled {types : ColumnTypes} {calls : Pid → InboxCall}
    {world : InboxWorld Pid} (consistent : ConsistentInbox types calls world)
    {pid : Pid} (returned : (world.returned pid).isSome)
    (handled : pid ∈ world.shared.handled) :
    ∃ row ∈ world.shared.store.table, row.insertedBy = pid := by
  obtain ⟨handledNow, answered⟩ := Option.isSome_iff_exists.mp returned
  have facts := returned_holds consistent answered
  cases handledNow with
  | true => exact facts
  | false => exact absurd handled facts.1

/-- In every schedule whose lookups meet no row that another consumer wrote
for the event, consumption is idempotent per consumer. -/
theorem consumedOnce_of_ownRows (types : ColumnTypes) (calls : Pid → InboxCall)
    (schedule : List (Event Pid Fault))
    (ownRows : EveryStep (World.step (inboxServer types))
      (LooksUpOwnRows types calls) (inboxStart calls) schedule) :
    ConsumedOnce types calls
      (run (World.step (inboxServer types)) (inboxStart calls) schedule) := by
  have consistent :
      ConsistentInbox types calls
        (run (World.step (inboxServer types)) (inboxStart calls) schedule) :=
    run_invariant consistentInbox_step (inboxStart_consistent types calls) ownRows
  constructor
  · intro first second firstReturned firstHandled secondReturned secondHandled
      _ sameEvent
    obtain ⟨firstRow, firstMember, rfl⟩ :=
      row_of_handled consistent firstReturned firstHandled
    obtain ⟨secondRow, secondMember, rfl⟩ :=
      row_of_handled consistent secondReturned secondHandled
    have sameKey : firstRow.eventId = secondRow.eventId := by
      have firstKey := (consistent.shared.recorded firstRow firstMember).event
      have secondKey := (consistent.shared.recorded secondRow secondMember).event
      rw [firstKey, secondKey, Option.some.injEq] at sameEvent
      exact sameEvent
    have sameRow : firstRow = secondRow :=
      List.inj_on_of_nodup_map consistent.shared.unique.distinct firstMember secondMember
        sameKey
    rw [sameRow]
  · exact consistent.shared.handledOnce
  · intro pid returned
    obtain ⟨_, row, member, sameEvent, ownConsumer⟩ := returned_holds consistent returned
    have recorded := consistent.shared.recorded row member
    exact ⟨row.insertedBy, recorded.handled, ⟨row, member, rfl⟩,
      recorded.consumer.trans ownConsumer, recorded.event.trans sameEvent.symm⟩

private def invoiceIssued : DomainEvent :=
  { eventId := "6d1f3c9a-2f0e-4a57-9d61-0c8b7b1f4e10"
    eventType := "invoice.issued"
    eventVersion := .finite 1
    timestamp := "2026-01-01T00:00:00.000Z"
    tenantId := "0b8f6a54-7d3e-4c1a-8a55-3f2f7f0f9c11"
    workspaceId := none
    correlationId := "correlation"
    causationId := none
    source := "billing"
    data := .obj [] }

/-- A call runs to its end: the statements of a call that is alone. -/
private def alone (pid : Bool) (statements : Nat) : List (Event Bool Fault) :=
  List.replicate statements (.statement pid .none)

/-- A consumer that gets an event twice handles it once. -/
theorem redeliveryConsumedOnce :
    ConsumedOnce ColumnTypes.verbatim (fun _ : Bool => ⟨"email", invoiceIssued⟩)
      (run (World.step (inboxServer ColumnTypes.verbatim))
        (inboxStart fun _ : Bool => ⟨"email", invoiceIssued⟩)
        (alone false 6 ++ alone true 4)) :=
  consumedOnce_of_ownRows ColumnTypes.verbatim _ _ (by decide)

/-- The second of two consumers of one event is told that it handled it. -/
theorem secondConsumerSkipped :
    ¬ ∀ (types : ColumnTypes) (calls : Bool → InboxCall)
        (schedule : List (Event Bool Fault)),
        ConsumedOnce types calls
          (run (World.step (inboxServer types)) (inboxStart calls) schedule) := by
  intro consumesOnce
  let calls : Bool → InboxCall := fun second =>
    ⟨if second then "email" else "billing", invoiceIssued⟩
  have consumed := consumesOnce ColumnTypes.verbatim calls (alone false 6 ++ alone true 4)
  obtain ⟨earlier, member, _, sameConsumer, _⟩ := consumed.told true (by decide)
  have billing : earlier = false := by
    revert member
    revert earlier
    decide
  subst earlier
  revert sameConsumer
  decide

end Schedules

end PlatformArchitecture.Postgres
