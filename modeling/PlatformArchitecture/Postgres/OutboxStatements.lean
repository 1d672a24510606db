import Mathlib.Data.List.Nodup
import PlatformArchitecture.Postgres.OutboxStages

/-!
# The statements of the outbox keep its invariant

One fact for each operation of the transactional store and one for each
statement of `appendOutbox` and `flushOnce`.
-/

namespace PlatformArchitecture.Postgres

open PlatformArchitecture.Domain
open PlatformArchitecture.Foundations

section Operations

variable {Pid : Type} [DecidableEq Pid] {toISOString : Nat → String}
  {types : ColumnTypes} {release : LockRelease} {state : OutboxState Pid}

/-! ## What the operations on the store keep -/

theorem keepsLocks_of_aborted {opened : Transaction OutboxWrite}
    (keeps : release.keepsLocks { opened with aborted := true }) :
    release.keepsLocks opened := by
  cases release with
  | atFailure => cases keeps
  | atEnd => rfl

theorem keepsLocks_of_sound {opened : Transaction OutboxWrite}
    (sound : opened.aborted = false) : release.keepsLocks opened := by
  cases release with
  | atFailure => simp [LockRelease.keepsLocks, sound]
  | atEnd => rfl

/-- Two open transactions lock no row twice. -/
def LocksApart (release : LockRelease) (first second : Transaction OutboxWrite) : Prop :=
  release.keepsLocks first → release.keepsLocks second →
    ∀ id, .lock id ∈ first.pending → .lock id ∉ second.pending

theorem LocksApart.symm {first second : Transaction OutboxWrite}
    (apart : LocksApart release first second) : LocksApart release second first :=
  fun keeps otherKeeps id member otherMember =>
    apart otherKeeps keeps id otherMember member

/-- Replacing the transaction of one process. -/
theorem OutboxInvariant.replace (holds : OutboxInvariant toISOString release state)
    {pid : Pid} {transaction : Option (Transaction OutboxWrite)}
    (unique : (state.store.withTransaction pid transaction).UniqueKeys
      (List.map OutboxRow.id) outboxKeys)
    (inserted : ∀ opened, transaction = some opened →
      ∀ row, .insert row ∈ opened.pending → row.publishedAt = none)
    (marked : ∀ opened, transaction = some opened →
      ∀ id now, .mark id now ∈ opened.pending →
        ∃ row ∈ state.store.table, row.id = id ∧
          eventOfRow toISOString row ∈ state.accepted)
    (locked : ∀ opened event, transaction = some opened →
      (pid, event) ∈ state.published → .lock event.eventId ∈ opened.pending)
    (apart : ∀ opened other otherOpened, transaction = some opened →
      release.keepsLocks opened → other ≠ pid →
        state.store.transaction other = some otherOpened →
          release.keepsLocks otherOpened →
            ∀ id, .lock id ∈ opened.pending → .lock id ∉ otherOpened.pending) :
    OutboxInvariant toISOString release
      { state with store := state.store.withTransaction pid transaction } where
  unique := unique
  published := holds.published
  inserted := TransactionalStore.forall_withTransaction inserted holds.inserted
  marked := TransactionalStore.forall_withTransaction marked holds.marked
  locked := by
    intro owner opened event
    apply TransactionalStore.forall_withTransaction
    · exact fun opened same => locked opened event same
    · exact fun owner opened found => holds.locked owner opened event found
  apart := by
    have locksApart : ∀ owner other opened otherOpened, owner ≠ other →
        (state.store.withTransaction pid transaction).transaction owner = some opened →
          (state.store.withTransaction pid transaction).transaction other =
              some otherOpened →
            LocksApart release opened otherOpened := by
      apply TransactionalStore.pairwise_withTransaction
      · exact fun _ _ apart => apart.symm
      · intro opened other otherOpened found different otherFound keeps otherKeeps
        exact apart opened other otherOpened found keeps different otherFound otherKeeps
      · intro owner other opened otherOpened different found otherFound keeps otherKeeps
        exact
          holds.apart owner other opened otherOpened different found keeps otherFound
            otherKeeps
    intro owner other opened otherOpened different found keeps otherFound otherKeeps
    exact
      locksApart owner other opened otherOpened different found otherFound keeps otherKeeps

theorem OutboxInvariant.close (holds : OutboxInvariant toISOString release state)
    (pid : Pid) :
    OutboxInvariant toISOString release
      { state with store := state.store.withTransaction pid none } :=
  holds.replace (holds.unique.close pid) (by simp) (by simp) (by simp) (by simp)

theorem OutboxInvariant.openEmpty (holds : OutboxInvariant toISOString release state)
    {pid : Pid} (silent : ∀ event, (pid, event) ∉ state.published) :
    OutboxInvariant toISOString release
      { state with store := state.store.withTransaction pid (some ⟨[], false⟩) } := by
  apply holds.replace (holds.unique.openEmpty pid)
  · intro opened same row member
    cases same
    cases member
  · intro opened same id now member
    cases same
    cases member
  · intro opened event same called
    cases same
    exact absurd called (silent event)
  · intro opened other otherOpened same _ _ _ _ id member
    cases same
    cases member

theorem OutboxInvariant.abort (holds : OutboxInvariant toISOString release state)
    {pid : Pid} {opened : Transaction OutboxWrite}
    (found : state.store.transaction pid = some opened) :
    OutboxInvariant toISOString release
      { state with
        store :=
          state.store.withTransaction pid (some { opened with aborted := true }) } := by
  apply holds.replace (holds.unique.abort pid opened.pending)
  · intro aborted same
    cases same
    exact holds.inserted pid opened found
  · intro aborted same
    cases same
    exact holds.marked pid opened found
  · intro aborted event same
    cases same
    exact holds.locked pid opened event found
  · intro aborted other otherOpened same keeps different otherFound otherKeeps
    cases same
    exact
      holds.apart pid other opened otherOpened (Ne.symm different) found
        (keepsLocks_of_aborted keeps) otherFound otherKeeps

/-- A statement that fails adds nothing. -/
theorem OutboxInvariant.failed (holds : OutboxInvariant toISOString release state)
    {pid : Pid} {after : TransactionalStore Pid (List OutboxRow) OutboxWrite}
    (left : after = state.store ∨ after = state.store.withTransaction pid none ∨
      ∃ transaction, state.store.transaction pid = some transaction ∧
        after =
          state.store.withTransaction pid (some { transaction with aborted := true })) :
    OutboxInvariant toISOString release { state with store := after } := by
  rcases left with rfl | rfl | ⟨opened, found, rfl⟩
  · exact holds
  · exact holds.close pid
  · exact holds.abort found

/-- A statement that succeeds adds inserts of unpublished rows, marks of
accepted events and locks no other transaction has. -/
theorem OutboxInvariant.extend (holds : OutboxInvariant toISOString release state)
    {pid : Pid} {opened : Transaction OutboxWrite}
    (found : state.store.transaction pid = some opened)
    (sound : opened.aborted = false) {effects : List OutboxWrite}
    (unique : (state.store.withTransaction pid
      (some ⟨opened.pending ++ effects, false⟩)).UniqueKeys
        (List.map OutboxRow.id) outboxKeys)
    (inserted : ∀ row, .insert row ∈ effects → row.publishedAt = none)
    (marked : ∀ id now, .mark id now ∈ effects →
      ∃ row ∈ state.store.table, row.id = id ∧
        eventOfRow toISOString row ∈ state.accepted)
    (unlocked : ∀ id, .lock id ∈ effects →
      state.store.anyOther pid (locksRow release id) = false) :
    OutboxInvariant toISOString release
      { state with
        store :=
          state.store.withTransaction pid
            (some ⟨opened.pending ++ effects, false⟩) } := by
  apply holds.replace unique
  · intro now same row member
    cases same
    rcases List.mem_append.mp member with old | new
    · exact holds.inserted pid opened found row old
    · exact inserted row new
  · intro now same id moment member
    cases same
    rcases List.mem_append.mp member with old | new
    · exact holds.marked pid opened found id moment old
    · exact marked id moment new
  · intro now event same called
    cases same
    exact List.mem_append_left _ (holds.locked pid opened event found called)
  · intro now other otherOpened same _ different otherFound otherKeeps id member
    cases same
    rcases List.mem_append.mp member with old | new
    · exact
        holds.apart pid other opened otherOpened (Ne.symm different) found
          (keepsLocks_of_sound sound) otherFound otherKeeps id old
    · have harmless :=
        TransactionalStore.anyOther_eq_false (unlocked id new) different otherFound
      simpa [locksRow, otherKeeps] using harmless

/-- A row that a sound transaction leaves published was published before, or
marked after the bus accepted its event. -/
private theorem published_of_applied
    (holds : OutboxInvariant toISOString release state) {pid : Pid}
    {opened : Transaction OutboxWrite}
    (found : state.store.transaction pid = some opened)
    (sound : opened.aborted = false) {row : OutboxRow}
    (member : row ∈ opened.pending.foldl writeOutbox state.store.table)
    (isPublished : row.publishedAt.isSome) :
    eventOfRow toISOString row ∈ state.accepted := by
  obtain ⟨origin, source, same, mark⟩ := origin_of_writes opened.pending member
  rw [same.2]
  have markedOrigin : row.publishedAt ≠ origin.publishedAt →
      ∃ stored ∈ state.store.table, stored.id = origin.id ∧
        eventOfRow toISOString stored ∈ state.accepted := by
    intro changed
    obtain ⟨now, marked⟩ := mark.resolve_left changed
    rw [← same.1]
    exact holds.marked pid opened found row.id now marked
  rcases source with old | new
  · by_cases unchanged : row.publishedAt = origin.publishedAt
    · exact holds.published origin old (unchanged ▸ isPublished)
    · obtain ⟨stored, storedMember, sameId, accepted⟩ := markedOrigin unchanged
      have sameRow : stored = origin :=
        List.inj_on_of_nodup_map holds.unique.distinct storedMember old sameId
      rwa [sameRow] at accepted
  · have unpublished := holds.inserted pid opened found origin new
    have changed : row.publishedAt ≠ origin.publishedAt := by
      intro equal
      rw [equal, unpublished] at isPublished
      cases isPublished
    obtain ⟨stored, storedMember, sameId, _⟩ := markedOrigin changed
    -- The key of an inserted row is not in the table.
    have keys := (List.nodup_append.mp (holds.unique.fresh pid opened found sound)).2.2
    exact absurd sameId
      (keys stored.id (List.mem_map_of_mem storedMember) origin.id
        (List.mem_flatMap.mpr ⟨_, new, List.mem_singleton_self _⟩))

/-- What a transaction leaves in the table when it commits. -/
theorem OutboxInvariant.commit (holds : OutboxInvariant toISOString release state)
    {pid : Pid} {opened : Transaction OutboxWrite}
    (found : state.store.transaction pid = some opened) :
    OutboxInvariant toISOString release
        { state with
          store :=
            { state.store.withTransaction pid none with
              table := state.store.applied writeOutbox opened } } ∧
      Evolves state.store.table (state.store.applied writeOutbox opened) := by
  have closed := holds.close pid
  have evolves :
      Evolves state.store.table (state.store.applied writeOutbox opened) := by
    unfold TransactionalStore.applied
    split
    · exact Evolves.refl _
    · exact evolves_writes opened.pending _
  refine ⟨?_, evolves⟩
  constructor
  · apply holds.unique.commit found
    · intro aborted
      rw [TransactionalStore.applied, if_pos aborted]
    · intro sound
      rw [TransactionalStore.applied, if_neg (by simp [sound]), ids_writes]
  · intro row member isPublished
    change row ∈ state.store.applied writeOutbox opened at member
    unfold TransactionalStore.applied at member
    split at member
    · exact holds.published row member isPublished
    · next sound =>
      exact published_of_applied holds found (by simpa using sound) member isPublished
  · exact closed.inserted
  · intro owner ownerOpened ownerFound id now member
    obtain ⟨row, stored, same, accepted⟩ :=
      closed.marked owner ownerOpened ownerFound id now member
    obtain ⟨later, laterMember, sameEvent⟩ := evolves row stored
    refine ⟨later, laterMember, sameEvent.1.trans same, ?_⟩
    rw [sameEvent.2]
    exact accepted
  · exact closed.locked
  · exact closed.apart

/-! ## What each statement does -/

/-- One process touches no transaction of another and calls the bus only for
itself. -/
structure OutboxMove (pid : Pid) (before after : OutboxState Pid) : Prop where
  table : Evolves before.store.table after.store.table
  transactions : TransactionalStore.SameElsewhere pid before.store after.store
  accepted : ∀ event ∈ before.accepted, event ∈ after.accepted
  published : ∀ other event, other ≠ pid →
    ((other, event) ∈ after.published ↔ (other, event) ∈ before.published)

theorem OutboxMove.others {pid other : Pid} {before after : OutboxState Pid}
    (move : OutboxMove pid before after) (different : other ≠ pid) :
    OutboxFrame other before after where
  table := move.table
  transaction := by
    intro opened found
    rwa [move.transactions other different] at found
  accepted := move.accepted
  published := fun event => move.published other event different

theorem outboxMove_refl (pid : Pid) (state : OutboxState Pid) :
    OutboxMove pid state state :=
  ⟨Evolves.refl _, fun _ _ => rfl, fun _ member => member, fun _ _ _ => Iff.rfl⟩

/-- A statement that leaves the table alone. -/
theorem outboxMove_store {pid : Pid}
    {after : TransactionalStore Pid (List OutboxRow) OutboxWrite}
    (frame : after.table = state.store.table ∧
      TransactionalStore.SameElsewhere pid state.store after) :
    OutboxMove pid state { state with store := after } := by
  refine ⟨?_, frame.2, fun _ member => member, fun _ _ _ => Iff.rfl⟩
  rw [frame.1]
  exact Evolves.refl _

/-- What opening, committing and undoing do to the rows and the locks. -/
theorem beginOutbox_keeps (holds : OutboxInvariant toISOString release state) {pid : Pid}
    (silent : ∀ event, (pid, event) ∉ state.published) (fault : Fault) :
    let outcome := state.withStore (state.store.begin OutboxError.query fault pid)
    OutboxInvariant toISOString release outcome.2 ∧ OutboxMove pid state outcome.2 ∧
      (outcome.1 = .ok () → outcome.2.store.transaction pid = some ⟨[], false⟩) := by
  intro outcome
  have frame := state.store.begin_frame OutboxError.query fault pid
  refine ⟨?_, outboxMove_store frame, ?_⟩
  · rcases state.store.begin_cases OutboxError.query fault pid with begun | failed
    · simpa only [outcome, OutboxState.withStore, begun] using holds.openEmpty silent
    · simpa only [outcome, OutboxState.withStore, failed] using holds
  · intro isOk
    rcases state.store.begin_cases OutboxError.query fault pid with begun | failed
    · simp only [outcome, OutboxState.withStore, begun, TransactionalStore.withTransaction_self]
    · simp only [outcome, OutboxState.withStore, failed] at isOk
      cases isOk

theorem commitOutbox_keeps (holds : OutboxInvariant toISOString release state) (pid : Pid)
    (fault : Fault) :
    let outcome := state.withStore (state.store.commit OutboxError.query writeOutbox fault pid)
    OutboxInvariant toISOString release outcome.2 ∧ OutboxMove pid state outcome.2 := by
  intro outcome
  have elsewhere := state.store.commit_sameElsewhere OutboxError.query writeOutbox fault pid
  rcases state.store.commit_cases OutboxError.query writeOutbox fault pid with
    ⟨failed, _⟩ | closed | ⟨opened, reply, found, committed⟩
  · simp only [outcome, OutboxState.withStore, failed]
    exact ⟨holds, outboxMove_refl pid state⟩
  · rw [closed] at elsewhere
    simp only [outcome, OutboxState.withStore, closed]
    exact ⟨holds.close pid, outboxMove_store ⟨rfl, elsewhere⟩⟩
  · rw [committed] at elsewhere
    simp only [outcome, OutboxState.withStore, committed]
    obtain ⟨kept, evolves⟩ := holds.commit found
    exact ⟨kept, evolves, elsewhere, fun _ member => member, fun _ _ _ => Iff.rfl⟩

theorem rollbackOutbox_keeps (holds : OutboxInvariant toISOString release state) (pid : Pid)
    (fault : Fault) :
    let outcome := state.withStore (state.store.rollback OutboxError.query fault pid)
    OutboxInvariant toISOString release outcome.2 ∧ OutboxMove pid state outcome.2 := by
  intro outcome
  refine ⟨?_, outboxMove_store (state.store.rollback_frame OutboxError.query fault pid)⟩
  rcases state.store.rollback_cases OutboxError.query fault pid with ⟨unchanged, _⟩ | closed
  · simpa only [outcome, OutboxState.withStore, unchanged] using holds
  · simpa only [outcome, OutboxState.withStore, closed] using holds.close pid

/-- An event is appended as an unpublished row. -/
theorem insertedRow_unpublished {event : DomainEvent} {now : Nat} {row : OutboxRow}
    (inserted : insertedRow types event now = some row) : row.publishedAt = none := by
  unfold insertedRow at inserted
  simp only [bind, Option.bind_eq_some_iff, pure, Option.some.injEq] at inserted
  obtain ⟨_, _, _, _, _, _, _, _, _, _, rfl⟩ := inserted
  rfl

theorem append_keeps (holds : OutboxInvariant toISOString release state) {pid : Pid}
    {choice : OutboxChoice} {event : DomainEvent} {reply : Except OutboxError Unit}
    {after : TransactionalStore Pid (List OutboxRow) OutboxWrite}
    (outcome :
      state.store.statement .query (judgeAppend types pid event choice.now state.store)
        choice.fault pid = some (reply, after)) :
    OutboxInvariant toISOString release { state with store := after } := by
  rcases TransactionalStore.statement_cases outcome with
    ⟨opened, value, effects, found, sound, judged, _, rfl⟩ | ⟨_, left⟩
  · unfold judgeAppend at judged
    split at judged
    · cases judged
    · next row insertable =>
      split at judged
      · cases judged
      · next unseen =>
        split at judged
        · cases judged
        · next alone =>
          simp only [Verdict.accept.injEq, true_and] at judged
          subst effects
          apply holds.extend found sound
          · apply holds.unique.insert found sound rfl
            · rw [← ids_writes]
              intro taken
              obtain ⟨stored, member, equal⟩ := List.mem_map.mp taken
              exact unseen (List.any_eq_true.mpr ⟨stored, member, by simpa using equal⟩)
            · simpa using alone
          · intro added member
            cases List.mem_singleton.mp member
            exact insertedRow_unpublished insertable
          · intro id now member
            cases List.mem_singleton.mp member
          · intro id member
            cases List.mem_singleton.mp member
  · exact holds.failed left

/-- The batch a select answers with is stored, and locked by its
transaction. -/
theorem selectUnpublished_keeps (holds : OutboxInvariant toISOString release state)
    {pid : Pid} {choice : OutboxChoice} {batchSize : JsNumber}
    {reply : Except OutboxError (List OutboxRow)}
    {after : TransactionalStore Pid (List OutboxRow) OutboxWrite}
    (nothing : ∀ opened, state.store.transaction pid = some opened →
      opened.pending = [])
    (outcome :
      state.store.statement .query
        (judgeSelectUnpublished types release pid batchSize state.store)
        choice.fault pid = some (reply, after)) :
    OutboxInvariant toISOString release { state with store := after } ∧
      ∀ rows, reply = .ok rows →
        ∀ row ∈ rows, Claimed pid { state with store := after } row := by
  rcases TransactionalStore.statement_cases outcome with
    ⟨opened, value, effects, found, sound, judged, answered, rfl⟩ | ⟨failed, left⟩
  · unfold judgeSelectUnpublished at judged
    split at judged
    · cases judged
    · next limit _ =>
      split at judged
      · cases judged
      · simp only [Verdict.accept.injEq] at judged
        obtain ⟨rfl, rfl⟩ := judged
        -- Sorting and limiting the batch take rows from those that passed the filter.
        have batch : ∀ row ∈ unlockedBatch release pid limit.toNat state.store opened,
            row ∈ state.store.table ∧
              state.store.anyOther pid (locksRow release row.id) = false := by
          intro row member
          have filtered := List.mem_mergeSort.mp (List.mem_of_mem_take member)
          rw [visibleOutbox, nothing opened found, List.foldl_nil, List.mem_filter]
            at filtered
          refine ⟨filtered.1, ?_⟩
          simpa using (Bool.and_eq_true_iff.mp filtered.2).2
        have locksOnly : ∀ write ∈ (unlockedBatch release pid limit.toNat state.store
            opened).map fun row => OutboxWrite.lock row.id, ∃ row ∈
              unlockedBatch release pid limit.toNat state.store opened,
                write = .lock row.id := by
          intro write member
          obtain ⟨row, rowMember, rfl⟩ := List.mem_map.mp member
          exact ⟨row, rowMember, rfl⟩
        constructor
        · apply holds.extend found sound
          · apply holds.unique.keep found sound
            rw [List.flatMap_eq_nil_iff]
            intro write member
            obtain ⟨row, _, rfl⟩ := locksOnly write member
            rfl
          · intro added member
            obtain ⟨row, _, isLock⟩ := locksOnly _ member
            cases isLock
          · intro id now member
            obtain ⟨row, _, isLock⟩ := locksOnly _ member
            cases isLock
          · intro id member
            obtain ⟨row, rowMember, isLock⟩ := locksOnly _ member
            cases isLock
            exact (batch row rowMember).2
        · intro rows same row member
          rw [answered] at same
          cases same
          refine ⟨⟨row, (batch row member).1, SameEvent.refl row⟩, ?_⟩
          intro now nowFound
          rw [TransactionalStore.withTransaction_self] at nowFound
          cases nowFound
          exact List.mem_append_right _ (List.mem_map.mpr ⟨row, member, rfl⟩)
  · refine ⟨holds.failed left, ?_⟩
    intro rows same
    rw [failed] at same
    cases same

/-- Calling the bus for a row that the transaction has locked. -/
theorem publish_keeps (holds : OutboxInvariant toISOString release state) {pid : Pid}
    {row : OutboxRow} (claimed : Claimed pid state row) (fault : Fault) :
    let outcome := publishToBus pid fault (eventOfRow toISOString row) state
    OutboxInvariant toISOString release outcome.2 ∧ OutboxMove pid state outcome.2 ∧
      outcome.2.store = state.store ∧
        (outcome.1 = .ok () → eventOfRow toISOString row ∈ outcome.2.accepted) := by
  intro outcome
  have store : outcome.2.store = state.store := by
    cases fault <;> rfl
  have called : outcome.2.published =
      (pid, eventOfRow toISOString row) :: state.published := by
    cases fault <;> rfl
  have accepted : ∀ event ∈ state.accepted, event ∈ outcome.2.accepted := by
    cases fault with
    | none | acknowledgementLost => exact fun _ member => List.mem_cons_of_mem _ member
    | statementError | connectionLost => exact fun _ member => member
  refine ⟨?_, ?_, store, ?_⟩
  · constructor
    · rw [store]
      exact holds.unique
    · rw [store]
      exact fun stored member isPublished =>
        accepted _ (holds.published stored member isPublished)
    · rw [store]
      exact holds.inserted
    · rw [store]
      intro owner opened found id now member
      obtain ⟨stored, storedMember, same, old⟩ :=
        holds.marked owner opened found id now member
      exact ⟨stored, storedMember, same, accepted _ old⟩
    · rw [store, called]
      intro owner opened event found member
      rcases List.mem_cons.mp member with new | old
      · cases new
        exact claimed.locked opened found
      · exact holds.locked owner opened event found old
    · rw [store]
      exact holds.apart
  · refine ⟨?_, ?_, accepted, ?_⟩
    · rw [store]
      exact Evolves.refl _
    · rw [store]
      exact fun _ _ => rfl
    · intro other event different
      rw [called, List.mem_cons, Prod.mk.injEq]
      exact or_iff_right fun same => different same.1
  · cases fault with
    | none => exact fun _ => List.mem_cons_self
    | statementError | connectionLost | acknowledgementLost =>
        intro failed
        cases failed

theorem markPublished_keeps (holds : OutboxInvariant toISOString release state)
    {pid : Pid} {choice : OutboxChoice} {row : OutboxRow}
    (claimed : Claimed pid state row)
    (accepted : eventOfRow toISOString row ∈ state.accepted)
    {reply : Except OutboxError Unit}
    {after : TransactionalStore Pid (List OutboxRow) OutboxWrite}
    (outcome :
      state.store.statement .query
        (judgeMarkPublished release pid row.id choice.now state.store)
        choice.fault pid = some (reply, after)) :
    OutboxInvariant toISOString release { state with store := after } ∧
      (reply = .ok () → ∀ batchRow, Claimed pid state batchRow →
        Claimed pid { state with store := after } batchRow) := by
  have sameTable := (TransactionalStore.statement_frame outcome).1
  rcases TransactionalStore.statement_cases outcome with
    ⟨opened, value, effects, found, sound, judged, answered, rfl⟩ | ⟨failed, left⟩
  · constructor
    · unfold judgeMarkPublished at judged
      split at judged
      · cases judged
        apply holds.extend found sound
        · exact holds.unique.keep found sound rfl
        · simp
        · simp
        · simp
      · split at judged
        · cases judged
        · next unlocked =>
          simp only [Verdict.accept.injEq, true_and] at judged
          subst effects
          apply holds.extend found sound
          · exact holds.unique.keep found sound rfl
          · simp
          · intro id now member
            obtain ⟨stored, storedMember, same⟩ := claimed.stored
            simp only [List.mem_cons, reduceCtorEq, OutboxWrite.mark.injEq,
              List.not_mem_nil, or_false, false_or] at member
            refine ⟨stored, storedMember, same.1.trans member.1.symm, ?_⟩
            rw [same.2]
            exact accepted
          · intro id member
            simp only [List.mem_cons, OutboxWrite.lock.injEq, reduceCtorEq,
              List.not_mem_nil, or_false] at member
            subst id
            simpa using unlocked
    · intro _ batchRow batchClaimed
      refine ⟨batchClaimed.stored, ?_⟩
      intro now nowFound
      rw [TransactionalStore.withTransaction_self] at nowFound
      cases nowFound
      exact List.mem_append_left _ (batchClaimed.locked opened found)
  · refine ⟨holds.failed left, ?_⟩
    intro same
    rw [failed] at same
    cases same

end Operations

end PlatformArchitecture.Postgres
