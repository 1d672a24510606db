import PlatformArchitecture.Foundations.Unwinding
import PlatformArchitecture.Postgres.InboxIdempotence
import PlatformArchitecture.Postgres.OutboxOrigins

/-!
# From a business transaction to its consumer

Events leave one service through its outbox and reach a consumer through its
inbox, over a bus that delivers what it has accepted, late, in any order and any
number of times.  The two sides know nothing of each other, and their steps
interleave freely.
-/

namespace PlatformArchitecture.Postgres

open PlatformArchitecture.Domain
open PlatformArchitecture.Foundations

section Pipeline

variable {Sender Receiver : Type}

/-- The processes at the outbox and the deliveries to the inbox. -/
structure PipelineWorld (Sender Receiver : Type) where
  senders : OutboxWorld Sender
  receivers : InboxWorld Receiver

inductive PipelineEvent (Sender Receiver : Type) where
  | sends (event : Event Sender OutboxChoice)
  | receives (event : Event Receiver Fault)

/-- The deliveries of a bus to one consumer. -/
def consumerCalls (consumerName : String) (deliveries : Receiver → DomainEvent)
    (receiver : Receiver) : InboxCall :=
  ⟨consumerName, deliveries receiver⟩

variable [DecidableEq Sender] [DecidableEq Receiver]

/-- The bus delivers nothing that it has not accepted. -/
def pipelineStep (types : ColumnTypes) (release : LockRelease)
    (deliveries : Receiver → DomainEvent) (world : PipelineWorld Sender Receiver) :
    PipelineEvent Sender Receiver → PipelineWorld Sender Receiver
  | .sends event =>
      { world with senders := world.senders.step (outboxServer types release) event }
  | .receives event =>
      if deliveries (processOf event) ∈ world.senders.shared.accepted then
        { world with receivers := world.receivers.step (inboxServer types) event }
      else
        world

def pipelineStart (toISOString : Nat → String) (tasks : Sender → OutboxTask)
    (consumerName : String) (deliveries : Receiver → DomainEvent) :
    PipelineWorld Sender Receiver where
  senders := outboxStart toISOString tasks
  receivers := inboxStart (consumerCalls consumerName deliveries)

/-! ## The bus between the two sides -/

omit [DecidableEq Receiver] in
/-- No statement takes an accepted event back. -/
theorem accepted_outboxOutcome {types : ColumnTypes} {release : LockRelease} {pid : Sender}
    {choice : OutboxChoice} {statement : OutboxStatement} {before after : OutboxState Sender}
    {reply : Except OutboxError statement.Reply}
    (outcome : outboxOutcome types release pid choice statement before = some (reply, after)) :
    ∀ event ∈ before.accepted, event ∈ after.accepted := by
  intro event member
  cases statement with
  | publish published =>
      simp only [outboxOutcome, Option.some.injEq] at outcome
      cases fault : choice.fault <;>
        simp only [publishToBus, fault, Prod.mk.injEq] at outcome <;>
        obtain ⟨-, rfl⟩ := outcome
      · exact List.mem_cons_of_mem _ member
      · exact member
      · exact member
      · exact List.mem_cons_of_mem _ member
  | connect =>
      cases fault : choice.fault <;>
        simp only [outboxOutcome, fault, Option.some.injEq, Prod.mk.injEq] at outcome <;>
        obtain ⟨-, rfl⟩ := outcome <;>
        exact member
  | begin | commit | rollback =>
      simp only [outboxOutcome, Option.some.injEq, OutboxState.withStore, Prod.mk.injEq] at outcome
      obtain ⟨-, rfl⟩ := outcome
      exact member
  | insert | selectUnpublished | markPublished =>
      simp only [outboxOutcome, Option.map_eq_some_iff] at outcome
      obtain ⟨answer, -, isAfter⟩ := outcome
      cases isAfter
      exact member

omit [DecidableEq Receiver] in
theorem accepted_step {types : ColumnTypes} {release : LockRelease}
    (world : OutboxWorld Sender) (event : Event Sender OutboxChoice) :
    ∀ accepted ∈ world.shared.accepted,
      accepted ∈ (world.step (outboxServer types release) event).shared.accepted := by
  intro accepted member
  rcases World.step_cases (outboxServer types release) world event with
    unchanged | ⟨pid, choice, statement, next, reply, shared, -, -, answer, moved⟩ |
      ⟨pid, programs, moved, -⟩
  · rw [unchanged]
    exact member
  · rw [moved]
    exact accepted_outboxOutcome answer accepted member
  · rw [moved]
    exact member

omit [DecidableEq Sender] in
/-- Only a statement of a delivery completes its handler. -/
theorem handled_inboxOutcome {types : ColumnTypes} {pid : Receiver} {fault : Fault}
    {statement : InboxStatement} {before after : InboxState Receiver}
    {reply : Except InboxError statement.Reply}
    (outcome : inboxOutcome types pid fault statement before = some (reply, after)) :
    ∀ receiver ∈ after.handled, receiver = pid ∨ receiver ∈ before.handled := by
  intro receiver member
  cases statement with
  | handler =>
      cases fault <;>
        simp only [inboxOutcome, Option.some.injEq, Prod.mk.injEq] at outcome <;>
        obtain ⟨-, rfl⟩ := outcome
      · exact List.mem_cons.mp member
      all_goals exact Or.inr member
  | connect =>
      cases fault <;>
        simp only [inboxOutcome, Option.some.injEq, Prod.mk.injEq] at outcome <;>
        obtain ⟨-, rfl⟩ := outcome <;>
        exact Or.inr member
  | begin | commit | rollback =>
      simp only [inboxOutcome, Option.some.injEq, InboxState.withStore, Prod.mk.injEq] at outcome
      obtain ⟨-, rfl⟩ := outcome
      exact Or.inr member
  | selectSeen | insert =>
      simp only [inboxOutcome, Option.map_eq_some_iff] at outcome
      obtain ⟨answer, -, isAfter⟩ := outcome
      cases isAfter
      exact Or.inr member

omit [DecidableEq Sender] in
theorem handled_step {types : ColumnTypes} (world : InboxWorld Receiver)
    (event : Event Receiver Fault) :
    ∀ receiver ∈ (world.step (inboxServer types) event).shared.handled,
      receiver = processOf event ∨ receiver ∈ world.shared.handled := by
  intro receiver member
  rcases World.step_cases (inboxServer types) world event with
    unchanged | ⟨pid, choice, statement, next, reply, shared, rfl, -, answer, moved⟩ |
      ⟨pid, programs, moved, -⟩
  · rw [unchanged] at member
    exact Or.inr member
  · rw [moved] at member
    exact handled_inboxOutcome answer receiver member
  · rw [moved] at member
    exact Or.inr member

omit [DecidableEq Sender] in
/-- A single consumer finds no rows of others. -/
theorem looksUpOwnRows_consumer {types : ColumnTypes} {consumerName : String}
    {deliveries : Receiver → DomainEvent} {world : InboxWorld Receiver}
    (consistent : ConsistentInbox types (consumerCalls consumerName deliveries) world)
    (event : Event Receiver Fault) :
    LooksUpOwnRows types (consumerCalls consumerName deliveries) world event := by
  intro pid _ row member _
  exact (consistent.shared.recorded row member).consumer.symm

/-! ## Whole runs -/

/-- Both sides are consistent, and no handler has completed for an event that
the bus has not accepted. -/
structure PipelineConsistent (types : ColumnTypes) (toISOString : Nat → String)
    (tasks : Sender → OutboxTask) (consumerName : String)
    (deliveries : Receiver → DomainEvent) (world : PipelineWorld Sender Receiver) : Prop where
  senders : world.senders.Consistent (Traceable types toISOString tasks)
    (OutboxTraced types toISOString tasks)
  receivers : ConsistentInbox types (consumerCalls consumerName deliveries) world.receivers
  delivered : ∀ receiver ∈ world.receivers.shared.handled,
    deliveries receiver ∈ world.senders.shared.accepted

theorem pipelineConsistent_start (types : ColumnTypes) (toISOString : Nat → String)
    (tasks : Sender → OutboxTask) (consumerName : String)
    (deliveries : Receiver → DomainEvent) :
    PipelineConsistent types toISOString tasks consumerName deliveries
      (pipelineStart toISOString tasks consumerName deliveries) where
  senders := traced_start tasks
  receivers := inboxStart_consistent types (consumerCalls consumerName deliveries)
  delivered := fun _ handled => absurd handled List.not_mem_nil

theorem pipelineConsistent_step {types : ColumnTypes} {release : LockRelease}
    {toISOString : Nat → String} {tasks : Sender → OutboxTask} {consumerName : String}
    {deliveries : Receiver → DomainEvent} (world : PipelineWorld Sender Receiver)
    (event : PipelineEvent Sender Receiver)
    (consistent :
      PipelineConsistent types toISOString tasks consumerName deliveries world) :
    PipelineConsistent types toISOString tasks consumerName deliveries
      (pipelineStep types release deliveries world event) := by
  cases event with
  | sends event =>
      refine ⟨traced_step world.senders event consistent.senders, consistent.receivers, ?_⟩
      intro receiver handled
      exact accepted_step world.senders event _ (consistent.delivered receiver handled)
  | receives event =>
      by_cases isAccepted : deliveries (processOf event) ∈ world.senders.shared.accepted
      · rw [pipelineStep, if_pos isAccepted]
        have ownRows := looksUpOwnRows_consumer consistent.receivers event
        refine ⟨consistent.senders,
          consistentInbox_step world.receivers event consistent.receivers ownRows, ?_⟩
        intro receiver handled
        rcases handled_step world.receivers event receiver handled with rfl | before
        · exact isAccepted
        · exact consistent.delivered receiver before
      · rw [pipelineStep, if_neg isAccepted]
        exact consistent

/-- What a consumer makes of the events of business transactions. -/
structure DeliveredOnce (types : ColumnTypes) (toISOString : Nat → String)
    (tasks : Sender → OutboxTask) (deliveries : Receiver → DomainEvent)
    (world : PipelineWorld Sender Receiver) : Prop where
  /-- A handler has completed only for an event that a business transaction
  appended, all of whose events are stored. -/
  originates : ∀ receiver ∈ world.receivers.shared.handled, ∃ sender events rows row,
    tasks sender = .append events ∧ List.Forall₂ (InsertedAs types) events rows ∧
      (∀ other ∈ rows, IsStored world.senders.shared.store.table other) ∧ row ∈ rows ∧
      eventOfRow toISOString row = deliveries receiver
  /-- One delivery at most of an event answers that it was handled now. -/
  once : ∀ first second, world.receivers.returned first = some true →
    world.receivers.returned second = some true →
      types.uuid (deliveries first).eventId = types.uuid (deliveries second).eventId →
        first = second
  /-- A delivery that has been answered leaves a completed handler for its event
  behind, its own or an earlier one. -/
  handled : ∀ receiver handledNow, world.receivers.returned receiver = some handledNow →
    ∃ earlier ∈ world.receivers.shared.handled,
      types.uuid (deliveries earlier).eventId = types.uuid (deliveries receiver).eventId ∧
        (handledNow = true → earlier = receiver)

theorem returned_row {types : ColumnTypes} {calls : Receiver → InboxCall}
    {world : InboxWorld Receiver} (consistent : ConsistentInbox types calls world)
    {receiver : Receiver} {handledNow : Bool}
    (returned : world.returned receiver = some handledNow) :
    ∃ row ∈ world.shared.store.table,
      types.uuid (calls receiver).event.eventId = some row.eventId ∧
        (handledNow = true → row.insertedBy = receiver) := by
  have facts := returned_holds consistent returned
  cases handledNow with
  | true =>
      obtain ⟨row, member, rfl⟩ := facts
      exact ⟨row, member, (consistent.shared.recorded row member).event, fun _ => rfl⟩
  | false =>
      obtain ⟨-, row, member, sameEvent, -⟩ := facts
      exact ⟨row, member, sameEvent, fun isTrue => absurd isTrue Bool.false_ne_true⟩

/-- However business transactions, publishers and deliveries to a consumer
interleave, fail and crash, the consumer handles only events of transactions that
are stored as a whole, and of each event one delivery only. -/
theorem events_deliveredOnce (types : ColumnTypes) (toISOString : Nat → String)
    (release : LockRelease) (tasks : Sender → OutboxTask) (consumerName : String)
    (deliveries : Receiver → DomainEvent) (schedule : List (PipelineEvent Sender Receiver)) :
    DeliveredOnce types toISOString tasks deliveries
      (run (pipelineStep types release deliveries)
        (pipelineStart toISOString tasks consumerName deliveries) schedule) := by
  have consistent := run_invariant_of_step
    (@pipelineConsistent_step _ _ _ _ types release toISOString tasks consumerName deliveries)
    schedule (pipelineConsistent_start types toISOString tasks consumerName deliveries)
  have unique := consistent.receivers.shared.unique
  refine ⟨?_, ?_, ?_⟩
  · intro receiver handled
    have isAccepted := consistent.delivered receiver handled
    obtain ⟨row, isRow, sameEvent⟩ :=
      consistent.senders.shared.accepted (deliveries receiver) isAccepted
    obtain ⟨sender, events, rows, inserted, isTask, isInserted, allStored, isMember, same⟩ :=
      consistent.senders.shared.origins row isRow
    exact ⟨sender, events, rows, inserted, isTask, isInserted, allStored, isMember,
      (same.2 toISOString).symm.trans sameEvent⟩
  · intro first second firstReturned secondReturned sameId
    obtain ⟨row, member, isEvent, isMine⟩ := returned_row consistent.receivers firstReturned
    obtain ⟨other, otherMember, isOtherEvent, isOthers⟩ :=
      returned_row consistent.receivers secondReturned
    have sameKey : row.eventId = other.eventId := by
      apply Option.some.inj
      rw [← isEvent, ← isOtherEvent]
      exact sameId
    have sameRow : row = other :=
      List.inj_on_of_nodup_map unique.1 member otherMember sameKey
    rw [← isMine rfl, ← isOthers rfl, sameRow]
  · intro receiver handledNow returned
    obtain ⟨row, member, isEvent, isMine⟩ := returned_row consistent.receivers returned
    have recorded := consistent.receivers.shared.recorded row member
    exact ⟨row.insertedBy, recorded.handled, recorded.event.trans isEvent.symm, isMine⟩

end Pipeline

end PlatformArchitecture.Postgres
