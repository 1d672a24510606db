import PlatformArchitecture.Foundations.Undisturbed
import PlatformArchitecture.Postgres.Outbox

/-!
# A publisher that is left alone

`OutboxPublisher.run` flushes the outbox until `stop` is called.  While no other
process has a transaction and nothing fails, every round publishes the oldest
pending rows, each once, and enough rounds leave none.
-/

namespace PlatformArchitecture.Postgres

open PlatformArchitecture.Domain
open PlatformArchitecture.Foundations

/-- `run`, where `stop` is called during the last of so many rounds.  The pause
after an empty batch awaits nothing of the database. -/
def runPublisher (toISOString : Nat → String) (batchSize : JsNumber) : Nat → OutboxProgram Unit
  | 0 => pure ()
  | rounds + 1 => do
      let _count ← flushOnce toISOString batchSize
      runPublisher toISOString batchSize rounds

def pendingRows (table : List OutboxRow) : List OutboxRow :=
  table.filter fun row => row.publishedAt.isNone

def Older (first second : OutboxRow) : Prop :=
  first.createdAt ≤ second.createdAt

/-! ## Marked rows -/

/-- A row after the marks of a transaction. -/
def markIn (marks : List (String × Nat)) (row : OutboxRow) : OutboxRow :=
  match marks.lookup row.id with
  | none => row
  | some now => row.marked now

def withMarks (marks : List (String × Nat)) (table : List OutboxRow) : List OutboxRow :=
  table.map (markIn marks)

theorem markIn_of_none {marks : List (String × Nat)} {row : OutboxRow}
    (unmarked : marks.lookup row.id = none) : markIn marks row = row := by
  rw [markIn, unmarked]

theorem markIn_of_some {marks : List (String × Nat)} {row : OutboxRow} {now : Nat}
    (isMarked : marks.lookup row.id = some now) : markIn marks row = row.marked now := by
  rw [markIn, isMarked]

theorem id_markIn (marks : List (String × Nat)) (row : OutboxRow) :
    (markIn marks row).id = row.id := by
  unfold markIn
  split <;> rfl

theorem withMarks_nil (table : List OutboxRow) : withMarks [] table = table :=
  List.map_id table

theorem ids_withMarks (marks : List (String × Nat)) (table : List OutboxRow) :
    (withMarks marks table).map OutboxRow.id = table.map OutboxRow.id := by
  rw [withMarks, List.map_map]
  exact List.map_congr_left fun row _ => id_markIn marks row

theorem lookup_eq_none_of_notMem {marks : List (String × Nat)} {id : String}
    (absent : id ∉ marks.map Prod.fst) : marks.lookup id = none := by
  rw [List.lookup_eq_none_iff]
  intro mark member
  have different : id ≠ mark.1 := fun same => absent (same ▸ List.mem_map_of_mem member)
  simpa using different

theorem lookup_isSome_of_mem {marks : List (String × Nat)} {id : String}
    (present : id ∈ marks.map Prod.fst) : (marks.lookup id).isSome = true := by
  obtain ⟨mark, member, rfl⟩ := List.mem_map.mp present
  cases found : marks.lookup mark.1 with
  | some now => rfl
  | none =>
      have different := List.lookup_eq_none_iff.mp found mark member
      simp at different

/-- Marks of other rows come on top. -/
theorem withMarks_withMarks {marks later : List (String × Nat)}
    (apart : ∀ id ∈ later.map Prod.fst, id ∉ marks.map Prod.fst) (table : List OutboxRow) :
    withMarks later (withMarks marks table) = withMarks (marks ++ later) table := by
  rw [withMarks, withMarks, List.map_map, withMarks]
  apply List.map_congr_left
  intro row _
  dsimp only [Function.comp]
  have appended : (marks ++ later).lookup row.id = (marks.lookup row.id).or (later.lookup row.id) :=
    List.lookup_append
  cases found : marks.lookup row.id with
  | none =>
      rw [found, Option.none_or] at appended
      rw [markIn_of_none found, markIn, markIn, appended]
  | some now =>
      rw [found, Option.some_or] at appended
      have absent : row.id ∉ later.map Prod.fst := by
        intro member
        rw [lookup_eq_none_of_notMem (apart row.id member)] at found
        cases found
      rw [markIn_of_some found, markIn_of_some appended]
      exact markIn_of_none (lookup_eq_none_of_notMem absent)

theorem markRows_eq_withMarks (id : String) (now : Nat) (table : List OutboxRow) :
    markRows id now table = withMarks [(id, now)] table := by
  rw [markRows, withMarks]
  apply List.map_congr_left
  intro row _
  by_cases same : row.id = id
  · rw [if_pos same, markIn_of_some]
    simp [same]
  · rw [if_neg same, markIn_of_none]
    exact lookup_eq_none_of_notMem (by simpa using same)

/-- What is pending after some rows have been marked. -/
theorem pendingRows_withMarks (marks : List (String × Nat)) (table : List OutboxRow) :
    pendingRows (withMarks marks table) =
      (pendingRows table).filter fun row => (marks.lookup row.id).isNone := by
  have isPending : ∀ row, (markIn marks row).publishedAt.isNone =
      ((marks.lookup row.id).isNone && row.publishedAt.isNone) := by
    intro row
    cases found : marks.lookup row.id with
    | none => rw [markIn_of_none found, Option.isNone_none, Bool.true_and]
    | some now =>
        rw [markIn_of_some found]
        rfl
  rw [pendingRows, withMarks, List.filter_map, pendingRows, List.filter_filter]
  simp only [Function.comp_def, isPending]
  rw [List.map_congr_left (g := id), List.map_id]
  intro row member
  have unmarked := (List.mem_filter.mp member).2
  rw [Bool.and_eq_true, Option.isNone_iff_eq_none] at unmarked
  exact markIn_of_none unmarked.1

/-! ## Pending rows in their order -/

/-- The pending rows, oldest first. -/
def inOrder (table : List OutboxRow) : List OutboxRow :=
  (pendingRows table).mergeSort fun first second => first.createdAt ≤ second.createdAt

theorem inOrder_perm (table : List OutboxRow) : (inOrder table).Perm (pendingRows table) :=
  List.mergeSort_perm _ _

theorem inOrder_pairwise (table : List OutboxRow) : (inOrder table).Pairwise Older := by
  have sorted : (inOrder table).Pairwise fun first second =>
      decide (first.createdAt ≤ second.createdAt) = true :=
    List.pairwise_mergeSort
      (fun first second third earlier later => by
        rw [decide_eq_true_eq] at earlier later ⊢
        exact Nat.le_trans earlier later)
      (fun first second => by
        rw [Bool.or_eq_true, decide_eq_true_eq, decide_eq_true_eq]
        exact Nat.le_total _ _) _
  exact sorted.imp of_decide_eq_true

theorem mem_of_mem_inOrder {table : List OutboxRow} {row : OutboxRow}
    (member : row ∈ inOrder table) : row ∈ table :=
  (List.mem_filter.mp ((inOrder_perm table).mem_iff.mp member)).1

theorem inOrder_nodup {table : List OutboxRow} (unique : (table.map OutboxRow.id).Nodup) :
    ((inOrder table).map OutboxRow.id).Nodup := by
  rw [((inOrder_perm table).map OutboxRow.id).nodup_iff]
  exact unique.sublist (List.filter_sublist.map _)

/-- Taking and locking rows leaves the table as it is. -/
theorem foldl_locks (rows : List OutboxRow) (table : List OutboxRow) :
    (rows.map fun row => OutboxWrite.lock row.id).foldl writeOutbox table = table := by
  induction rows with
  | nil => rfl
  | cons row rest inductionHypothesis => exact inductionHypothesis

/-- Marking a first part of the rows in order leaves the rest pending. -/
theorem pendingRows_marked {table order rest : List OutboxRow} {marks : List (String × Nat)}
    (unique : (table.map OutboxRow.id).Nodup) (inTwo : inOrder table = order ++ rest)
    (keys : marks.map Prod.fst = order.map OutboxRow.id) :
    (pendingRows (withMarks marks table)).Perm rest := by
  have distinct := inOrder_nodup unique
  rw [inTwo, List.map_append] at distinct
  have ofOrder : order.filter (fun row => (marks.lookup row.id).isNone) = [] := by
    rw [List.filter_eq_nil_iff]
    intro row member
    have present : row.id ∈ marks.map Prod.fst := by
      rw [keys]
      exact List.mem_map_of_mem member
    rw [Option.isNone_iff_eq_none, ← Option.not_isSome_iff_eq_none, lookup_isSome_of_mem present]
    simp
  have ofRest : rest.filter (fun row => (marks.lookup row.id).isNone) = rest := by
    rw [List.filter_eq_self]
    intro row member
    rw [Option.isNone_iff_eq_none]
    apply lookup_eq_none_of_notMem
    rw [keys]
    intro inFirst
    exact (List.nodup_append.mp distinct).2.2 row.id inFirst row.id
      (List.mem_map_of_mem member) rfl
  rw [pendingRows_withMarks]
  have reordered := (inOrder_perm table).filter fun row => (marks.lookup row.id).isNone
  rw [inTwo, List.filter_append, ofOrder, ofRest, List.nil_append] at reordered
  exact reordered.symm

/-! ## What rounds of publishing do -/

section Rounds

variable {Pid : Type} {toISOString : Nat → String}

/-- No transaction is open, and the rows have different ids. -/
structure Quiet (state : OutboxState Pid) : Prop where
  closed : state.store.transactions = []
  unique : (state.store.table.map OutboxRow.id).Nodup

/-- Of the rows that were pending, so many of the oldest have been published in
order and marked, each once, and the rest are pending. -/
structure Published (toISOString : Nat → String) (limit : Nat) (before after : OutboxState Pid)
    (order rest : List OutboxRow) : Prop where
  pending : (pendingRows before.store.table).Perm (order ++ rest)
  oldestFirst : (order ++ rest).Pairwise Older
  count : order.length = min limit (pendingRows before.store.table).length
  table : ∃ marks : List (String × Nat), marks.map Prod.fst = order.map OutboxRow.id ∧
    after.store.table = withMarks marks before.store.table
  left : (pendingRows after.store.table).Perm rest
  accepted : after.accepted = (order.map (eventOfRow toISOString)).reverse ++ before.accepted
  closed : after.store.transactions = []

theorem Published.quiet {limit : Nat} {before after : OutboxState Pid}
    {order rest : List OutboxRow} (published : Published toISOString limit before after order rest)
    (quiet : Quiet before) : Quiet after := by
  obtain ⟨marks, _, marked⟩ := published.table
  refine ⟨published.closed, ?_⟩
  rw [marked, ids_withMarks]
  exact quiet.unique

theorem Published.nothing {state : OutboxState Pid} (quiet : Quiet state) :
    Published toISOString 0 state state [] (inOrder state.store.table) where
  pending := (inOrder_perm _).symm
  oldestFirst := inOrder_pairwise _
  count := (Nat.zero_min _).symm
  table := ⟨[], rfl, (withMarks_nil _).symm⟩
  left := (inOrder_perm _).symm
  accepted := rfl
  closed := quiet.closed

/-- Two rounds, one after the other. -/
theorem Published.trans {limit more : Nat} {before between after : OutboxState Pid}
    {order rest later last : List OutboxRow}
    (first : Published toISOString limit before between order rest)
    (second : Published toISOString more between after later last) (quiet : Quiet before) :
    Published toISOString (limit + more) before after (order ++ later) last := by
  have split : rest.Perm (later ++ last) := first.left.symm.trans second.pending
  have whole : (pendingRows before.store.table).Perm (order ++ later ++ last) := by
    rw [List.append_assoc]
    exact first.pending.trans (split.append_left order)
  have distinct : ((order ++ later).map OutboxRow.id).Nodup := by
    have unique : ((order ++ later ++ last).map OutboxRow.id).Nodup := by
      rw [← (whole.map OutboxRow.id).nodup_iff]
      exact quiet.unique.sublist (List.filter_sublist.map _)
    exact unique.sublist ((List.sublist_append_left _ _).map _)
  obtain ⟨earlierMarks, earlierKeys, earlierTable⟩ := first.table
  obtain ⟨laterMarks, laterKeys, laterTable⟩ := second.table
  refine ⟨whole, ?_, ?_, ⟨earlierMarks ++ laterMarks, ?_, ?_⟩, second.left, ?_, second.closed⟩
  · have sorted := List.pairwise_append.mp first.oldestFirst
    rw [List.append_assoc, List.pairwise_append]
    exact ⟨sorted.1, second.oldestFirst, fun row member other otherMember =>
      sorted.2.2 row member other (split.mem_iff.mpr otherMember)⟩
  · have ofFirst := first.count
    have ofSecond := second.count
    have ofPending := first.pending.length_eq
    have ofRest := first.left.length_eq
    rw [List.length_append] at ofPending ⊢
    omega
  · rw [List.map_append, earlierKeys, laterKeys, List.map_append]
  · rw [laterTable, earlierTable, withMarks_withMarks]
    rw [laterKeys, earlierKeys]
    intro id laterMember earlierMember
    rw [List.map_append] at distinct
    exact (List.nodup_append.mp distinct).2.2 id earlierMember id laterMember rfl
  · rw [second.accepted, first.accepted, List.map_append, List.reverse_append, List.append_assoc]

end Rounds

/-! ## One process with its transaction -/

section Alone

variable {Pid : Type} [DecidableEq Pid] {pid : Pid}

/-- The store while one process has the only transaction. -/
def soleTransaction (pid : Pid) (table : List OutboxRow) (pending : List OutboxWrite) :
    TransactionalStore Pid (List OutboxRow) OutboxWrite :=
  ⟨table, [(pid, ⟨pending, false⟩)]⟩

@[simp]
theorem soleTransaction_transaction (table : List OutboxRow) (pending : List OutboxWrite) :
    (soleTransaction pid table pending).transaction pid = some ⟨pending, false⟩ := by
  simp [soleTransaction, TransactionalStore.transaction]

@[simp]
theorem soleTransaction_withTransaction (table : List OutboxRow) (pending : List OutboxWrite)
    (writes : List OutboxWrite) :
    (soleTransaction pid table pending).withTransaction pid (some ⟨writes, false⟩) =
      soleTransaction pid table writes := by
  simp [soleTransaction, TransactionalStore.withTransaction]

@[simp]
theorem soleTransaction_anyOther (table : List OutboxRow) (pending : List OutboxWrite)
    (test : Transaction OutboxWrite → Bool) :
    (soleTransaction pid table pending).anyOther pid test = false := by
  simp [soleTransaction, TransactionalStore.anyOther]

/-- A statement that is accepted in the only transaction. -/
theorem soleTransaction_statement {Reply : Type} {table : List OutboxRow}
    {pending : List OutboxWrite} {judge : Transaction OutboxWrite → Verdict Reply OutboxWrite}
    {reply : Reply} {writes : List OutboxWrite}
    (accepts : judge ⟨pending, false⟩ = .accept reply writes) :
    (soleTransaction pid table pending).statement OutboxError.query judge .none pid =
      some (.ok reply, soleTransaction pid table (pending ++ writes)) := by
  simp [TransactionalStore.statement, accepts]

theorem soleTransaction_commit (table : List OutboxRow) (pending : List OutboxWrite) :
    (soleTransaction pid table pending).commit OutboxError.query writeOutbox .none pid =
      (.ok (), ⟨pending.foldl writeOutbox table, []⟩) := by
  simp only [TransactionalStore.commit, soleTransaction_transaction, TransactionalStore.applied]
  simp [soleTransaction, TransactionalStore.withTransaction]

def FaultFree (choice : OutboxChoice) : Prop :=
  choice.fault = .none

variable {types : ColumnTypes} {release : LockRelease} {toISOString : Nat → String}

/-- The loop over a batch publishes its rows and marks them. -/
theorem publishRows_completes {table : List OutboxRow} {accepted : List DomainEvent}
    {published : List (Pid × DomainEvent)} {pending : List OutboxWrite}
    {marks : List (String × Nat)}
    (visible : pending.foldl writeOutbox table = withMarks marks table)
    (batch : List OutboxRow) (inTable : ∀ row ∈ batch, row ∈ table)
    (distinct : (marks.map Prod.fst ++ batch.map OutboxRow.id).Nodup) :
    (publishRows toISOString batch).Completes (outboxServer types release) pid FaultFree
      (fun ended after => ended = .ok () ∧
        ∃ writes later calls, writes.foldl writeOutbox table = withMarks (marks ++ later) table ∧
          later.map Prod.fst = batch.map OutboxRow.id ∧
          after = ⟨soleTransaction pid table writes,
            (batch.map (eventOfRow toISOString)).reverse ++ accepted, calls⟩)
      ⟨soleTransaction pid table pending, accepted, published⟩ := by
  induction batch generalizing pending marks accepted published with
  | nil =>
      refine ⟨rfl, pending, [], published, ?_, rfl, rfl⟩
      rw [List.append_nil]
      exact visible
  | cons row rest inductionHypothesis =>
      have inRows : row.id ∈ (withMarks marks table).map OutboxRow.id := by
        rw [ids_withMarks]
        exact List.mem_map_of_mem (inTable row List.mem_cons_self)
      have notAbsent : (withMarks marks table).all (fun stored => stored.id ≠ row.id) = false := by
        obtain ⟨stored, member, same⟩ := List.mem_map.mp inRows
        rw [List.all_eq_false]
        exact ⟨stored, member, by simp [same]⟩
      apply Program.completes_bind
      apply Program.completes_call
      intro choice faultFree
      have noFault : choice.fault = .none := faultFree
      refine ⟨.ok (), ⟨soleTransaction pid table pending,
        eventOfRow toISOString row :: accepted, (pid, eventOfRow toISOString row) :: published⟩,
        ?_, ?_⟩
      · simp only [outboxServer, outboxOutcome, publishToBus, noFault]
      · apply Program.completes_bind
        apply Program.completes_call
        intro choice faultFree
        have noFault : choice.fault = .none := faultFree
        have judged : judgeMarkPublished release pid row.id choice.now
            (soleTransaction pid table pending) ⟨pending, false⟩ =
            .accept () [.lock row.id, .mark row.id choice.now] := by
          have seen : visibleOutbox (soleTransaction pid table pending) ⟨pending, false⟩ =
              withMarks marks table := visible
          rw [judgeMarkPublished, seen, notAbsent, soleTransaction_anyOther]
          rfl
        refine ⟨.ok (), ⟨soleTransaction pid table
          (pending ++ [.lock row.id, .mark row.id choice.now]),
          eventOfRow toISOString row :: accepted,
          (pid, eventOfRow toISOString row) :: published⟩, ?_, ?_⟩
        · simp only [outboxServer, outboxOutcome, noFault, soleTransaction_statement judged]
          rfl
        · have freshId : row.id ∉ marks.map Prod.fst := by
            intro member
            exact (List.nodup_append.mp distinct).2.2 row.id member row.id
              List.mem_cons_self rfl
          have marked : (pending ++ [OutboxWrite.lock row.id, .mark row.id choice.now]).foldl
              writeOutbox table = withMarks (marks ++ [(row.id, choice.now)]) table := by
            rw [List.foldl_append, visible]
            change markRows row.id choice.now (withMarks marks table) = _
            rw [markRows_eq_withMarks, withMarks_withMarks]
            intro id member
            rw [List.mem_singleton.mp member]
            exact freshId
          have stillDistinct : ((marks ++ [(row.id, choice.now)]).map Prod.fst ++
              rest.map OutboxRow.id).Nodup := by
            rw [List.map_append, List.append_assoc]
            exact distinct
          apply Program.Completes.mono _ (inductionHypothesis marked
            (fun other member => inTable other (List.mem_cons_of_mem _ member)) stillDistinct)
          rintro ended after ⟨isOk, writes, later, calls, written, ids, rfl⟩
          refine ⟨isOk, writes, (row.id, choice.now) :: later, calls, ?_, ?_, ?_⟩
          · rw [written, List.append_assoc, List.singleton_append]
          · rw [List.map_cons, ids, List.map_cons]
          · rw [List.map_cons, List.reverse_cons, List.append_assoc, List.singleton_append]

theorem judgeSelectUnpublished_sole {batchSize : JsNumber} {limit : Int}
    (isLimit : types.integer batchSize = some limit) (positive : 0 < limit)
    (table : List OutboxRow) :
    judgeSelectUnpublished types release pid batchSize (soleTransaction pid table [])
        ⟨[], false⟩ =
      .accept ((inOrder table).take limit.toNat)
        (((inOrder table).take limit.toNat).map fun row => .lock row.id) := by
  have isBatch : unlockedBatch release pid limit.toNat (soleTransaction pid table [])
      ⟨[], false⟩ = (inOrder table).take limit.toNat := by
    simp only [unlockedBatch, soleTransaction_anyOther, Bool.not_false, Bool.and_true]
    rfl
  simp only [judgeSelectUnpublished, isLimit, if_neg (Int.not_lt.mpr (Int.le_of_lt positive)),
    isBatch]

theorem flushOnce_completes {batchSize : JsNumber} {limit : Int}
    (isLimit : types.integer batchSize = some limit) (positive : 0 < limit)
    {state : OutboxState Pid} (quiet : Quiet state) :
    (flushOnce toISOString batchSize).Completes (outboxServer types release) pid FaultFree
      (fun ended after => ∃ order rest, ended = .ok order.length ∧
        Published toISOString limit.toNat state after order rest) state := by
  obtain ⟨⟨table, transactions⟩, accepted, calls⟩ := state
  obtain rfl : transactions = [] := quiet.closed
  have inTwo := (List.take_append_drop limit.toNat (inOrder table)).symm
  generalize isOrder : (inOrder table).take limit.toNat = order at inTwo
  generalize (inOrder table).drop limit.toNat = rest at inTwo
  unfold flushOnce
  have visible : (order.map fun row => OutboxWrite.lock row.id).foldl writeOutbox table =
      withMarks [] table := by
    rw [foldl_locks, withMarks_nil]
  have distinct := inOrder_nodup quiet.unique
  rw [inTwo, List.map_append] at distinct
  have inTable : ∀ row ∈ order, row ∈ table := by
    intro row member
    apply mem_of_mem_inOrder
    rw [inTwo]
    exact List.mem_append_left _ member
  have judged : judgeSelectUnpublished types release pid batchSize (soleTransaction pid table [])
      ⟨[], false⟩ = .accept order (order.map fun row => .lock row.id) := by
    rw [judgeSelectUnpublished_sole isLimit positive, isOrder]
  apply Program.completes_bind
  apply Program.completes_call
  intro choice faultFree
  have noFault : choice.fault = .none := faultFree
  refine ⟨.ok (), ⟨⟨table, []⟩, accepted, calls⟩, ?_, ?_⟩
  · simp only [outboxServer, outboxOutcome, noFault]
  apply Program.completes_orElse
  apply Program.completes_bind
  apply Program.completes_call
  intro choice faultFree
  have noFault : choice.fault = .none := faultFree
  refine ⟨.ok (), ⟨soleTransaction pid table [], accepted, calls⟩, ?_, ?_⟩
  · simp only [outboxServer, outboxOutcome, noFault]
    rfl
  apply Program.completes_bind
  apply Program.completes_call
  intro choice faultFree
  have noFault : choice.fault = .none := faultFree
  refine ⟨.ok order, ⟨soleTransaction pid table (order.map fun row => .lock row.id), accepted,
    calls⟩, ?_, ?_⟩
  · simp only [outboxServer, outboxOutcome, noFault, soleTransaction_statement judged]
    rfl
  apply Program.completes_bind
  apply Program.Completes.mono _
    (publishRows_completes visible order inTable (List.nodup_append.mp distinct).1)
  rintro ended after ⟨rfl, writes, marks, calls, written, keys, rfl⟩
  apply Program.completes_bind
  apply Program.completes_call
  intro choice faultFree
  have noFault : choice.fault = .none := faultFree
  refine ⟨.ok (), ⟨⟨withMarks marks table, []⟩,
    (order.map (eventOfRow toISOString)).reverse ++ accepted, calls⟩, ?_, ?_⟩
  · simp only [outboxServer, outboxOutcome, noFault, soleTransaction_commit, written]
    rfl
  · refine ⟨⟨order.length, rfl⟩, order, rest, rfl, ?_⟩
    have sorted := inOrder_pairwise table
    have pending := (inOrder_perm table).symm
    rw [inTwo] at sorted pending
    exact {
      pending := pending
      oldestFirst := sorted
      count := by rw [← isOrder, List.length_take, (inOrder_perm table).length_eq]
      table := ⟨marks, keys, rfl⟩
      left := pendingRows_marked quiet.unique inTwo keys
      accepted := rfl
      closed := rfl }

/-- Every round finds what the rounds before have left. -/
theorem runPublisher_completes {batchSize : JsNumber} {limit : Int}
    (isLimit : types.integer batchSize = some limit) (positive : 0 < limit) (rounds : Nat)
    {state : OutboxState Pid} (quiet : Quiet state) :
    (runPublisher toISOString batchSize rounds).Completes (outboxServer types release) pid
      FaultFree
      (fun ended after => ended = .ok () ∧ ∃ order rest,
        Published toISOString (rounds * limit.toNat) state after order rest) state := by
  induction rounds generalizing state with
  | zero =>
      refine ⟨rfl, [], inOrder state.store.table, ?_⟩
      rw [Nat.zero_mul]
      exact Published.nothing quiet
  | succ rounds inductionHypothesis =>
      apply Program.completes_bind
      apply Program.Completes.mono _ (flushOnce_completes isLimit positive quiet)
      rintro ended between ⟨order, rest, rfl, first⟩
      apply Program.Completes.mono _ (inductionHypothesis (first.quiet quiet))
      rintro ended after ⟨isOk, later, last, second⟩
      refine ⟨isOk, order ++ later, last, ?_⟩
      rw [Nat.succ_mul, Nat.add_comm]
      exact first.trans second quiet

/-- A publisher that is left alone and meets no fault needs, for any choices of
the environment, only so many statements: then its rounds have published the
oldest pending rows in their order, each once, and if the rounds were enough
none is pending. -/
theorem runPublisher_drains {batchSize : JsNumber} {limit : Int}
    (isLimit : types.integer batchSize = some limit) (positive : 0 < limit) (rounds : Nat)
    (world : World Pid (OutboxState Pid) OutboxStatement OutboxStatement.Reply OutboxError Unit)
    (current : world.programs pid = some (runPublisher toISOString batchSize rounds))
    (quiet : Quiet world.shared) (choose : Nat → OutboxChoice)
    (faultFree : ∀ index, FaultFree (choose index)) :
    ∃ count,
      let later := Foundations.run (World.step (outboxServer types release)) world
        ((List.range count).map fun index => Event.statement pid (choose index))
      later.programs pid = some (.done ()) ∧
      ∃ order rest,
        Published toISOString (rounds * limit.toNat) world.shared later.shared order rest ∧
        ((pendingRows world.shared.store.table).length ≤ rounds * limit.toNat →
          pendingRows later.shared.store.table = []) := by
  obtain ⟨count, ended, hasEnded, isOk, order, rest, published⟩ :=
    (runPublisher_completes isLimit positive rounds quiet).ends current choose faultFree
  refine ⟨count, ?_, order, rest, published, ?_⟩
  · rw [hasEnded, isOk]
    rfl
  · intro enough
    have all := published.pending.length_eq
    have left := published.left.length_eq
    rw [List.length_append, published.count, Nat.min_eq_right enough] at all
    exact List.length_eq_zero_iff.mp (by omega)

end Alone

private def waitingRow (id : String) (createdAt : Nat) : OutboxRow where
  id
  eventType := "document.uploaded"
  eventVersion := 1
  tenantId := "tenant"
  workspaceId := none
  correlationId := "request"
  causationId := none
  source := "documents"
  payload := .null
  createdAt
  publishedAt := none
  attempts := 0

private def waitingOutbox : OutboxState Unit :=
  ⟨⟨[waitingRow "second" 7, waitingRow "first" 3], []⟩, [], []⟩

/-- Two rounds of one row each publish both waiting rows. -/
theorem runPublisher_drains_twoRows :
    ∃ count,
      let later := Foundations.run
        (World.step (outboxServer ColumnTypes.verbatim .atFailure))
        ⟨waitingOutbox, fun _ => some (runPublisher (fun _ => "") (.finite 1) 2)⟩
        ((List.range count).map fun _ => Event.statement () ⟨.none, 9⟩)
      later.programs () = some (.done ()) ∧
      ∃ order rest,
        Published (fun _ => "") (2 * 1) waitingOutbox later.shared order rest ∧
        ((pendingRows waitingOutbox.store.table).length ≤ 2 * 1 →
          pendingRows later.shared.store.table = []) :=
  @runPublisher_drains Unit _ () ColumnTypes.verbatim .atFailure (fun _ => "") (.finite 1) 1
    rfl (by decide) 2
    ⟨waitingOutbox, fun _ => some (runPublisher (fun _ => "") (.finite 1) 2)⟩ rfl
    ⟨rfl, by decide⟩ (fun _ => ⟨.none, 9⟩) fun _ => rfl

end PlatformArchitecture.Postgres
