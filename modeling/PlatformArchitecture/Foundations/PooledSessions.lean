import PlatformArchitecture.Foundations.Program
import PlatformArchitecture.Foundations.Transactions

/-!
# Programs over a pool of connections

A pool gives every statement of a program to a connection of its choice.  A
statement belongs to the transaction that is open on its connection; on a
connection without one it commits by itself.  `COMMIT` and `ROLLBACK` on such a
connection do nothing and succeed.
-/

namespace PlatformArchitecture.Foundations

namespace TransactionalStore

variable {Connection Table Effect Reply Error : Type} [DecidableEq Connection]

/-- Committed data and no open transaction. -/
def idle (table : Table) : TransactionalStore Connection Table Effect :=
  ⟨table, []⟩

/-- What the statements of a connection see. -/
def seenBy (apply : Table → Effect → Table)
    (store : TransactionalStore Connection Table Effect) (connection : Connection) : Table :=
  match store.transaction connection with
  | none => store.table
  | some opened => store.applied apply opened

/-- A statement in the open transaction of its connection, or by itself. -/
def pooledStatement (error : Error) (apply : Table → Effect → Table)
    (judge : Transaction Effect → Verdict Reply Effect) (fault : Fault)
    (connection : Connection) (store : TransactionalStore Connection Table Effect) :
    Option (Except Error Reply × TransactionalStore Connection Table Effect) :=
  match store.transaction connection with
  | some _ => store.statement error judge fault connection
  | none =>
      match fault, judge ⟨[], false⟩ with
      | .none, .accept reply effects =>
          some (.ok reply, { store with table := effects.foldl apply store.table })
      | .acknowledgementLost, .accept _ effects =>
          some (.error error, { store with table := effects.foldl apply store.table })
      | .none, .wait | .acknowledgementLost, .wait => none
      | _, _ => some (.error error, store)

def pooledCommit (error : Error) (apply : Table → Effect → Table) (fault : Fault)
    (connection : Connection) (store : TransactionalStore Connection Table Effect) :
    Except Error Unit × TransactionalStore Connection Table Effect :=
  match store.transaction connection, fault with
  | none, .none => (.ok (), store)
  | none, _ => (.error error, store)
  | some _, _ => store.commit error apply fault connection

def pooledRollback (error : Error) (fault : Fault)
    (connection : Connection) (store : TransactionalStore Connection Table Effect) :
    Except Error Unit × TransactionalStore Connection Table Effect :=
  match store.transaction connection, fault with
  | none, .none => (.ok (), store)
  | none, _ => (.error error, store)
  | some _, _ => store.rollback error fault connection

/-- A statement on a connection without a transaction commits what it does, or
does nothing. -/
theorem pooledStatement_closed {error : Error} {apply : Table → Effect → Table}
    {judge : Transaction Effect → Verdict Reply Effect} {fault : Fault} {connection : Connection}
    {store after : TransactionalStore Connection Table Effect} {reply : Except Error Reply}
    (closed : store.transaction connection = none)
    (outcome : store.pooledStatement error apply judge fault connection = some (reply, after)) :
    after = store ∨ ∃ value effects, judge ⟨[], false⟩ = .accept value effects ∧
      after = { store with table := effects.foldl apply store.table } := by
  unfold pooledStatement at outcome
  rw [closed] at outcome
  dsimp only at outcome
  split at outcome
  · next judged =>
      cases outcome
      exact Or.inr ⟨_, _, judged, rfl⟩
  · next judged =>
      cases outcome
      exact Or.inr ⟨_, _, judged, rfl⟩
  · cases outcome
  · cases outcome
  · cases outcome
    exact Or.inl rfl

/-- `COMMIT` closes the transaction of a connection, and applies it or not. -/
theorem pooledCommit_cases (error : Error) (apply : Table → Effect → Table) (fault : Fault)
    (connection : Connection) (store : TransactionalStore Connection Table Effect) :
    SameElsewhere connection store (store.pooledCommit error apply fault connection).2 ∧
      (store.pooledCommit error apply fault connection).2.transaction connection = none ∧
      ((store.pooledCommit error apply fault connection).2.table = store.table ∨
        ∃ transaction, store.transaction connection = some transaction ∧
          (store.pooledCommit error apply fault connection).2.table =
            store.applied apply transaction) := by
  unfold pooledCommit
  cases opened : store.transaction connection with
  | none => cases fault <;> exact ⟨fun _ _ => rfl, opened, Or.inl rfl⟩
  | some transaction =>
      have elsewhere := commit_sameElsewhere error apply fault connection store
      refine ⟨elsewhere, ?_⟩
      rcases commit_cases error apply fault connection store with
        ⟨-, closed⟩ | failed | ⟨found, reply, isOpen, committed⟩
      · rw [opened] at closed
        cases closed
      · rw [failed]
        exact ⟨withTransaction_self store connection none, Or.inl rfl⟩
      · rw [committed]
        rw [opened] at isOpen
        cases isOpen
        exact ⟨withTransaction_self store connection none, Or.inr ⟨transaction, rfl, rfl⟩⟩

/-- `ROLLBACK` closes the transaction of a connection and applies nothing. -/
theorem pooledRollback_cases (error : Error) (fault : Fault) (connection : Connection)
    (store : TransactionalStore Connection Table Effect) :
    SameElsewhere connection store (store.pooledRollback error fault connection).2 ∧
      (store.pooledRollback error fault connection).2.transaction connection = none ∧
      (store.pooledRollback error fault connection).2.table = store.table := by
  unfold pooledRollback
  cases opened : store.transaction connection with
  | none => cases fault <;> exact ⟨fun _ _ => rfl, opened, rfl⟩
  | some transaction =>
      rcases rollback_cases error fault connection store with ⟨-, closed⟩ | rolledBack
      · rw [opened] at closed
        cases closed
      · change SameElsewhere connection store (store.rollback error fault connection).2 ∧
          (store.rollback error fault connection).2.transaction connection = none ∧
          (store.rollback error fault connection).2.table = store.table
        rw [rolledBack]
        exact ⟨sameElsewhere_withTransaction connection store none,
          withTransaction_self store connection none, rfl⟩

theorem pooledRollback_reply (error : Error) (fault : Fault) (connection : Connection)
    (store : TransactionalStore Connection Table Effect) :
    (store.pooledRollback error fault connection).1 = .ok () ∨
      (store.pooledRollback error fault connection).1 = .error error := by
  unfold pooledRollback rollback
  cases store.transaction connection with
  | none =>
      cases fault with
      | none => exact Or.inl rfl
      | statementError | connectionLost | acknowledgementLost => exact Or.inr rfl
  | some transaction =>
      cases fault with
      | none => exact Or.inl rfl
      | statementError | connectionLost | acknowledgementLost => exact Or.inr rfl

/-! ## A transaction of one connection -/

/-- No connection but one has an open transaction, and the committed data is
given. -/
structure OnlyOn (connection : Connection) (table : Table)
    (store : TransactionalStore Connection Table Effect) : Prop where
  committed : store.table = table
  alone : ∀ other, other ≠ connection → store.transaction other = none

/-- No connection has an open transaction, and the committed data is given. -/
structure Settled (table : Table) (store : TransactionalStore Connection Table Effect) :
    Prop where
  committed : store.table = table
  closed : ∀ connection, store.transaction connection = none

variable {connection : Connection} {table : Table}
  {store after : TransactionalStore Connection Table Effect}

theorem settled_idle (table : Table) :
    (idle table : TransactionalStore Connection Table Effect).Settled table where
  committed := rfl
  closed _ := rfl

namespace Settled

theorem onlyOn (settled : store.Settled table) (connection : Connection) :
    store.OnlyOn connection table where
  committed := settled.committed
  alone other _ := settled.closed other

/-- Every connection sees the committed data. -/
theorem seenBy_eq (settled : store.Settled table) (apply : Table → Effect → Table)
    (connection : Connection) : store.seenBy apply connection = table := by
  unfold seenBy
  rw [settled.closed connection]
  exact settled.committed

theorem pooledRollback_eq (settled : store.Settled table) (error : Error) (fault : Fault)
    (connection : Connection) : (store.pooledRollback error fault connection).2 = store := by
  unfold pooledRollback
  rw [settled.closed connection]
  cases fault <;> rfl

end Settled

namespace OnlyOn

/-- When the one transaction is closed, none is open. -/
theorem close (only : store.OnlyOn connection table) :
    (store.withTransaction connection none).Settled table where
  committed := only.committed
  closed other := by
    by_cases same : other = connection
    · subst other
      exact withTransaction_self store connection none
    · rw [withTransaction_other store same]
      exact only.alone other same

theorem withTransaction (only : store.OnlyOn connection table)
    (transaction : Option (Transaction Effect)) :
    (store.withTransaction connection transaction).OnlyOn connection table where
  committed := only.committed
  alone other different := by
    rw [withTransaction_other store different]
    exact only.alone other different

/-- A test finds no transaction of another connection. -/
theorem anyOther (only : store.OnlyOn connection table)
    (test : Transaction Effect → Bool) : store.anyOther connection test = false := by
  apply List.any_eq_false.mpr
  intro entry member
  by_cases same : entry.1 = connection
  · simp [same]
  · have closed := only.alone entry.1 same
    have unlisted := List.lookup_eq_none_iff.mp closed entry member
    simp at unlisted

end OnlyOn

/-- A `ROLLBACK` that is answered, wherever it runs. -/
theorem OnlyOn.answeredRollback (only : store.OnlyOn connection table) (error : Error)
    (other : Connection) :
    ∃ after, store.pooledRollback error .none other = (.ok (), after) ∧
      after.OnlyOn connection table := by
  unfold pooledRollback
  cases opened : store.transaction other with
  | none => exact ⟨store, rfl, only⟩
  | some transaction =>
      have same : other = connection := by
        by_contra different
        rw [only.alone other different] at opened
        cases opened
      subst same
      refine ⟨store.withTransaction other none, ?_, only.withTransaction none⟩
      unfold rollback
      rw [opened]

/-- A settled store is nothing but its committed data. -/
theorem Settled.eq_idle (settled : store.Settled table) : store = idle table := by
  obtain ⟨committed, transactions⟩ := store
  cases transactions with
  | nil => exact congrArg idle settled.committed
  | cons entry rest =>
      have closed := settled.closed entry.1
      simp [TransactionalStore.transaction] at closed

/-- A `COMMIT` of the one transaction applies it, answered or not, or fails and
lets go of it. -/
theorem OnlyOn.pooledCommit_ends (only : store.OnlyOn connection table) (error : Error)
    (fault : Fault) (apply : Table → Effect → Table) {transaction : Transaction Effect}
    (opened : store.transaction connection = some transaction) :
    ∃ reply after, store.pooledCommit error apply fault connection = (reply, after) ∧
      (after.Settled (store.applied apply transaction) ∧
          (reply = .ok () ∨ fault = .acknowledgementLost ∧ reply = .error error) ∨
        after.Settled table ∧ reply = .error error) := by
  unfold pooledCommit commit
  rw [opened]
  cases fault with
  | none => exact ⟨_, _, rfl, Or.inl ⟨⟨rfl, only.close.closed⟩, Or.inl rfl⟩⟩
  | statementError => exact ⟨_, _, rfl, Or.inr ⟨only.close, rfl⟩⟩
  | connectionLost => exact ⟨_, _, rfl, Or.inr ⟨only.close, rfl⟩⟩
  | acknowledgementLost =>
      exact ⟨_, _, rfl, Or.inl ⟨⟨rfl, only.close.closed⟩, Or.inr ⟨rfl, rfl⟩⟩⟩

/-- `ROLLBACK` on the connection of the one transaction settles the store. -/
theorem OnlyOn.rollback (only : store.OnlyOn connection table) (error : Error)
    (fault : Fault) :
    (store.pooledRollback error fault connection).2.Settled table := by
  unfold pooledRollback
  cases opened : store.transaction connection with
  | none =>
      have settled : store.Settled table :=
        { committed := only.committed
          closed := by
            intro other
            by_cases same : other = connection
            · rw [same]
              exact opened
            · exact only.alone other same }
      cases fault <;> exact settled
  | some transaction =>
      rcases rollback_cases error fault connection store with ⟨_, absent⟩ | closed
      · rw [opened] at absent
        cases absent
      · change ((store.rollback error fault connection).2).Settled table
        rw [closed]
        exact only.close

/-- One connection has an open transaction. -/
def opened (connection : Connection) (table : Table) (transaction : Transaction Effect) :
    TransactionalStore Connection Table Effect :=
  ⟨table, [(connection, transaction)]⟩

section Opened

variable {other : Connection} {transaction next : Transaction Effect}

omit [DecidableEq Connection] in
@[simp]
theorem table_opened : (opened connection table transaction).table = table :=
  rfl

@[simp]
theorem transaction_opened :
    (opened connection table transaction).transaction connection = some transaction := by
  simp [opened, TransactionalStore.transaction]

theorem onlyOn_opened : (opened connection table transaction).OnlyOn connection table where
  committed := rfl
  alone other different := by
    have unequal : (other == connection) = false := by simpa using different
    simp [opened, TransactionalStore.transaction, List.lookup_cons, unequal]

@[simp]
theorem withTransaction_opened :
    (opened connection table transaction).withTransaction connection (some next) =
      opened connection table next := by
  simp [opened, TransactionalStore.withTransaction]

theorem begin_idle (error : Error) :
    (idle table : TransactionalStore Connection Table Effect).begin error .none connection =
      (.ok (), opened connection table ⟨[], false⟩) :=
  rfl

/-- A `COMMIT` that happens is acknowledged, or its acknowledgement is lost. -/
theorem commit_opened (same : other = connection) (error : Error)
    (apply : Table → Effect → Table) :
    ∃ after : TransactionalStore Connection Table Effect,
      (opened connection table transaction).pooledCommit error apply .none other =
          (.ok (), after) ∧
        (opened connection table transaction).pooledCommit error apply .acknowledgementLost
            other =
          (.error error, after) ∧
        after.Settled (if transaction.aborted then table
          else transaction.pending.foldl apply table) := by
  subst same
  unfold pooledCommit commit
  rw [transaction_opened]
  exact ⟨_, rfl, rfl, rfl, onlyOn_opened.close.closed⟩

theorem rollback_opened (same : other = connection) (error : Error) :
    ∃ after : TransactionalStore Connection Table Effect,
      (opened connection table transaction).pooledRollback error .none other =
          (.ok (), after) ∧
        after.Settled table := by
  subst same
  unfold pooledRollback rollback
  rw [transaction_opened]
  exact ⟨_, rfl, onlyOn_opened.close⟩

/-- Another connection meets the one transaction. -/
theorem anyOther_opened (different : other ≠ connection)
    (test : Transaction Effect → Bool) :
    (opened connection table transaction).anyOther other test = test transaction := by
  simp [opened, TransactionalStore.anyOther, Ne.symm different]

end Opened

end TransactionalStore

/-! ## Running a program -/

/-- What a statement does on a connection; there is no outcome when it waits
for a lock that only the rest of the same program would release. -/
structure Pool (Connection State Op : Type) (Reply : Op → Type) (Error : Type) where
  execute : (op : Op) → Connection → Fault → State →
    Option (Except Error (Reply op) × State)

namespace Program

variable {Connection State Op Error Result : Type} {Reply : Op → Type}

/-- Run a program alone: the connection and the fault of a statement depend on
how many statements came before it. -/
def runPooled (pool : Pool Connection State Op Reply Error) (route : Nat → Connection)
    (faults : Nat → Fault) :
    Program Op Reply Error Result → Nat → State → Option (Except Error Result × State)
  | done result, _, state => some (.ok result, state)
  | fail error, _, state => some (.error error, state)
  | perform op next, issued, state =>
      (pool.execute op (route issued) (faults issued) state).bind fun outcome =>
        (next outcome.1).runPooled pool route faults (issued + 1) outcome.2

/-- What a program that runs alone leaves behind, also where it waits for ever. -/
def leavesPooled (pool : Pool Connection State Op Reply Error) (route : Nat → Connection)
    (faults : Nat → Fault) : Program Op Reply Error Result → Nat → State → State
  | done _, _, state => state
  | fail _, _, state => state
  | perform op next, issued, state =>
      match pool.execute op (route issued) (faults issued) state with
      | none => state
      | some (reply, after) =>
          (next reply).leavesPooled pool route faults (issued + 1) after

/-- The program comes to an end, and the end is as `post` says. -/
def EndsPooled (pool : Pool Connection State Op Reply Error) (route : Nat → Connection)
    (faults : Nat → Fault) (post : Except Error Result → State → Prop)
    (program : Program Op Reply Error Result) (issued : Nat) (state : State) : Prop :=
  ∃ result after,
    program.runPooled pool route faults issued state = some (result, after) ∧
      post result after

variable {pool : Pool Connection State Op Reply Error} {route : Nat → Connection}
  {faults : Nat → Fault} {post : Except Error Result → State → Prop} {issued : Nat}
  {state after : State}

theorem endsPooled_fail {error : Error} (holds : post (.error error) state) :
    EndsPooled pool route faults post (fail error) issued state :=
  ⟨.error error, state, rfl, holds⟩

theorem endsPooled_done {result : Result} (holds : post (.ok result) state) :
    EndsPooled pool route faults post (done result) issued state :=
  ⟨.ok result, state, rfl, holds⟩

theorem EndsPooled.mono {weaker : Except Error Result → State → Prop}
    {program : Program Op Reply Error Result}
    (ends : EndsPooled pool route faults post program issued state)
    (weaken : ∀ result after, post result after → weaker result after) :
    EndsPooled pool route faults weaker program issued state := by
  obtain ⟨result, after, ran, holds⟩ := ends
  exact ⟨result, after, ran, weaken result after holds⟩

/-- A program ends in one way only. -/
theorem EndsPooled.both {other : Except Error Result → State → Prop}
    {program : Program Op Reply Error Result}
    (ends : EndsPooled pool route faults post program issued state)
    (endsOther : EndsPooled pool route faults other program issued state) :
    ∃ result after, post result after ∧ other result after := by
  obtain ⟨result, after, ran, holds⟩ := ends
  obtain ⟨otherResult, otherAfter, ranOther, holdsOther⟩ := endsOther
  have same := Option.some.inj (ran.symm.trans ranOther)
  cases same
  exact ⟨result, after, holds, holdsOther⟩

/-- What a program leaves that goes on with the outcome of another one. -/
theorem leavesPooled_outcomeThen {Other : Type}
    (rest : Except Error Result → Program Op Reply Error Other)
    {program : Program Op Reply Error Result} {result : Except Error Result}
    (ran : program.runPooled pool route faults issued state = some (result, after)) :
    ∃ last, (program.outcomeThen rest).leavesPooled pool route faults issued state =
      (rest result).leavesPooled pool route faults last after := by
  induction program generalizing issued state with
  | done result =>
      cases ran
      exact ⟨issued, rfl⟩
  | fail error =>
      cases ran
      exact ⟨issued, rfl⟩
  | perform op next inductionHypothesis =>
      obtain ⟨⟨reply, between⟩, executed, ranOn⟩ := Option.bind_eq_some_iff.mp ran
      obtain ⟨last, same⟩ := inductionHypothesis reply ranOn
      refine ⟨last, ?_⟩
      rw [← same]
      simp only [outcomeThen, leavesPooled, executed]

/-- What is left when the first statement is carried out by finer ones. -/
theorem leavesPooled_expand_branch {Coarse Other : Type} {CoarseReply : Coarse → Type}
    {carryOut : (op : Coarse) → Program Op Reply Error (CoarseReply op)} {op : Coarse}
    (next : CoarseReply op → Program Coarse CoarseReply Error Other)
    (handler : Error → Program Coarse CoarseReply Error Other)
    {result : Except Error (CoarseReply op)}
    (ran : (carryOut op).runPooled pool route faults issued state = some (result, after)) :
    ∃ last,
      ((branch op next handler).expand carryOut).leavesPooled pool route faults issued state =
        match result with
        | .ok reply =>
            ((next reply).expand carryOut).leavesPooled pool route faults last after
        | .error error =>
            ((handler error).expand carryOut).leavesPooled pool route faults last after := by
  obtain ⟨last, same⟩ := leavesPooled_outcomeThen _ ran
  refine ⟨last, same.trans ?_⟩
  cases result with
  | ok reply => rfl
  | error error => rfl

section Parts

variable {Part Whole : Type} {statement : Part → Op}
  {part : Pool Connection State Part (fun op => Reply (statement op)) Error}
  {whole : Pool Connection Whole Op Reply Error} {get : Whole → State}
  {set : Whole → State → Whole}

/-- Statements that concern a part of the state run as on the part alone. -/
theorem runPooled_embed
    (executes : ∀ op connection fault state,
      whole.execute (statement op) connection fault state =
        (part.execute op connection fault (get state)).map fun outcome =>
          (outcome.1, set state outcome.2))
    (set_get : ∀ state, set state (get state) = state)
    (get_set : ∀ state value, get (set state value) = value)
    (set_set : ∀ state first second, set (set state first) second = set state second)
    (program : Program Part (fun op => Reply (statement op)) Error Result) (issued : Nat)
    (state : Whole) :
    (program.embed statement).runPooled whole route faults issued state =
      (program.runPooled part route faults issued (get state)).map fun outcome =>
        (outcome.1, set state outcome.2) := by
  induction program generalizing issued state with
  | done result =>
      change some (_, state) = some (_, set state (get state))
      rw [set_get]
  | fail error =>
      change some (_, state) = some (_, set state (get state))
      rw [set_get]
  | perform op next inductionHypothesis =>
      simp only [embed, runPooled, executes]
      cases part.execute op (route issued) (faults issued) (get state) with
      | none => rfl
      | some outcome =>
          simp only [Option.map_some, Option.bind_some, inductionHypothesis, get_set, set_set]

end Parts

section Branch

variable {op : Op} {next : Reply op → Program Op Reply Error Result}
  {handler : Error → Program Op Reply Error Result}

theorem runPooled_branch_ok {reply : Reply op}
    (executed : pool.execute op (route issued) (faults issued) state =
      some (.ok reply, after)) :
    (branch op next handler).runPooled pool route faults issued state =
      (next reply).runPooled pool route faults (issued + 1) after := by
  change (pool.execute op (route issued) (faults issued) state).bind _ = _
  rw [executed]
  rfl

theorem runPooled_branch_error {error : Error}
    (executed : pool.execute op (route issued) (faults issued) state =
      some (.error error, after)) :
    (branch op next handler).runPooled pool route faults issued state =
      (handler error).runPooled pool route faults (issued + 1) after := by
  change (pool.execute op (route issued) (faults issued) state).bind _ = _
  rw [executed]
  rfl

theorem runPooled_branch_waits
    (waits : pool.execute op (route issued) (faults issued) state = none) :
    (branch op next handler).runPooled pool route faults issued state = none := by
  change (pool.execute op (route issued) (faults issued) state).bind _ = _
  rw [waits]
  rfl

/-- The rule for a statement that succeeds. -/
theorem endsPooled_ok {reply : Reply op}
    (executed : pool.execute op (route issued) (faults issued) state =
      some (.ok reply, after))
    (ends : EndsPooled pool route faults post (next reply) (issued + 1) after) :
    EndsPooled pool route faults post (branch op next handler) issued state := by
  unfold EndsPooled
  rw [runPooled_branch_ok executed]
  exact ends

/-- The rule for a statement that fails. -/
theorem endsPooled_error {error : Error}
    (executed : pool.execute op (route issued) (faults issued) state =
      some (.error error, after))
    (ends : EndsPooled pool route faults post (handler error) (issued + 1) after) :
    EndsPooled pool route faults post (branch op next handler) issued state := by
  unfold EndsPooled
  rw [runPooled_branch_error executed]
  exact ends

end Branch

end Program

end PlatformArchitecture.Foundations
