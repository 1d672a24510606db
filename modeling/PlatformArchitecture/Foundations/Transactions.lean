import Mathlib.Data.List.Basic

/-!
# Transactions of many connections over one table

Each process has at most one open transaction.  Its writes stay pending until
it commits, when they are applied together; a rollback, a lost connection or a
failed statement makes them disappear.  The environment chooses a fault for
every statement.  A statement that conflicts with another open transaction may
have to wait.
-/

namespace PlatformArchitecture.Foundations

structure Transaction (Effect : Type) where
  pending : List Effect
  aborted : Bool
  deriving DecidableEq

/-- Committed data and the open transactions, each under its process. -/
structure TransactionalStore (Pid Table Effect : Type) where
  table : Table
  transactions : List (Pid × Transaction Effect)
  deriving DecidableEq

/-- What can go wrong with one statement.  Losing the connection rolls the
transaction back; only a commit can be lost after it took effect. -/
inductive Fault where
  | none
  | statementError
  | connectionLost
  | acknowledgementLost
  deriving DecidableEq

/-- How the database judges a statement inside a sound transaction. -/
inductive Verdict (Reply Effect : Type) where
  | wait
  | reject
  | accept (reply : Reply) (effects : List Effect)

namespace TransactionalStore

variable {Pid Table Effect Reply Error : Type} [DecidableEq Pid]

/-- The open transaction of a process. -/
def transaction (store : TransactionalStore Pid Table Effect) (pid : Pid) :
    Option (Transaction Effect) :=
  store.transactions.lookup pid

/-- Replace or close the transaction of one process. -/
def withTransaction (store : TransactionalStore Pid Table Effect) (pid : Pid)
    (transaction : Option (Transaction Effect)) :
    TransactionalStore Pid Table Effect :=
  let others := store.transactions.filter fun entry => entry.1 ≠ pid
  { store with
    transactions := (transaction.map fun opened => (pid, opened)).toList ++ others }

/-- Whether a transaction of another process satisfies a test. -/
def anyOther (store : TransactionalStore Pid Table Effect) (pid : Pid)
    (test : Transaction Effect → Bool) : Bool :=
  store.transactions.any fun entry => decide (entry.1 ≠ pid) && test entry.2

private theorem lookup_filter_self (pid : Pid)
    (entries : List (Pid × Transaction Effect)) :
    (entries.filter fun entry => entry.1 ≠ pid).lookup pid = none := by
  induction entries with
  | nil =>
      rfl
  | cons entry rest inductionHypothesis =>
      obtain ⟨owner, opened⟩ := entry
      by_cases same : owner = pid
      · simpa [List.filter_cons, same] using inductionHypothesis
      · have keyDiffers : (pid == owner) = false := by
          simpa using Ne.symm same
        simpa [List.filter_cons, same, List.lookup_cons, keyDiffers] using
          inductionHypothesis

private theorem lookup_filter_other {pid other : Pid} (different : other ≠ pid)
    (entries : List (Pid × Transaction Effect)) :
    (entries.filter fun entry => entry.1 ≠ pid).lookup other =
      entries.lookup other := by
  induction entries with
  | nil =>
      rfl
  | cons entry rest inductionHypothesis =>
      obtain ⟨owner, opened⟩ := entry
      by_cases same : owner = pid
      · subst owner
        have keyDiffers : (other == pid) = false := by
          simpa using different
        simpa [List.filter_cons, List.lookup_cons, keyDiffers] using
          inductionHypothesis
      · simp only [ne_eq, same, not_false_eq_true, decide_true, List.filter_cons,
          if_true, List.lookup_cons]
        split
        · rfl
        · simpa using inductionHypothesis

@[simp]
theorem withTransaction_self (store : TransactionalStore Pid Table Effect)
    (pid : Pid) (transaction : Option (Transaction Effect)) :
    (store.withTransaction pid transaction).transaction pid = transaction := by
  cases transaction with
  | none =>
      exact lookup_filter_self pid store.transactions
  | some opened =>
      simp [TransactionalStore.transaction, withTransaction]

theorem withTransaction_other (store : TransactionalStore Pid Table Effect)
    {pid other : Pid} (different : other ≠ pid)
    (transaction : Option (Transaction Effect)) :
    (store.withTransaction pid transaction).transaction other =
      store.transaction other := by
  have unfiltered := lookup_filter_other different store.transactions
  cases transaction with
  | none =>
      exact unfiltered
  | some opened =>
      have keyDiffers : (other == pid) = false := by
        simpa using different
      simpa [TransactionalStore.transaction, withTransaction, List.lookup_cons,
        keyDiffers] using unfiltered

/-- What is true of the transaction that replaces one and of all that were
open is true of all that are open now. -/
theorem forall_withTransaction {store : TransactionalStore Pid Table Effect} {pid : Pid}
    {transaction : Option (Transaction Effect)}
    {fact : Pid → Transaction Effect → Prop}
    (own : ∀ opened, transaction = some opened → fact pid opened)
    (others : ∀ owner opened, store.transaction owner = some opened → fact owner opened)
    (owner : Pid) (opened : Transaction Effect)
    (found : (store.withTransaction pid transaction).transaction owner = some opened) :
    fact owner opened := by
  by_cases same : owner = pid
  · subst owner
    rw [withTransaction_self] at found
    exact own opened found
  · rw [withTransaction_other store same] at found
    exact others owner opened found

/-- The same for what is true of the transactions of any two processes, either
way round. -/
theorem pairwise_withTransaction {store : TransactionalStore Pid Table Effect} {pid : Pid}
    {transaction : Option (Transaction Effect)}
    {related : Transaction Effect → Transaction Effect → Prop}
    (symmetric : ∀ first second, related first second → related second first)
    (own : ∀ opened other otherOpened, transaction = some opened → other ≠ pid →
      store.transaction other = some otherOpened → related opened otherOpened)
    (others : ∀ owner other opened otherOpened, owner ≠ other →
      store.transaction owner = some opened →
        store.transaction other = some otherOpened → related opened otherOpened)
    (owner other : Pid) (opened otherOpened : Transaction Effect) (different : owner ≠ other)
    (found : (store.withTransaction pid transaction).transaction owner = some opened)
    (otherFound :
      (store.withTransaction pid transaction).transaction other = some otherOpened) :
    related opened otherOpened := by
  by_cases same : owner = pid
  · subst owner
    have otherSame : other ≠ pid := Ne.symm different
    rw [withTransaction_self] at found
    rw [withTransaction_other store otherSame] at otherFound
    exact own opened other otherOpened found otherSame otherFound
  · rw [withTransaction_other store same] at found
    by_cases otherSame : other = pid
    · subst other
      rw [withTransaction_self] at otherFound
      exact symmetric otherOpened opened (own otherOpened owner opened otherFound same found)
    · rw [withTransaction_other store otherSame] at otherFound
      exact others owner other opened otherOpened different found otherFound

/-- When no other transaction passes a test, the transaction of every other
process fails it. -/
theorem anyOther_eq_false {store : TransactionalStore Pid Table Effect} {pid : Pid}
    {test : Transaction Effect → Bool} (noOther : store.anyOther pid test = false)
    {other : Pid} (different : other ≠ pid) {opened : Transaction Effect}
    (running : store.transaction other = some opened) :
    test opened = false := by
  have member : (other, opened) ∈ store.transactions := by
    obtain ⟨_, _, split, _⟩ := List.lookup_eq_some_iff.mp running
    simp [split]
  have fails := List.any_eq_false.mp noOther (other, opened) member
  simpa [different] using fails

/-- `BEGIN`. -/
def begin (error : Error) (fault : Fault) (pid : Pid)
    (store : TransactionalStore Pid Table Effect) :
    Except Error Unit × TransactionalStore Pid Table Effect :=
  match fault with
  | .none => (.ok (), store.withTransaction pid (some ⟨[], false⟩))
  | _ => (.error error, store)

/-- A statement of an open transaction. -/
def statement (error : Error)
    (judge : Transaction Effect → Verdict Reply Effect) (fault : Fault)
    (pid : Pid) (store : TransactionalStore Pid Table Effect) :
    Option (Except Error Reply × TransactionalStore Pid Table Effect) :=
  match store.transaction pid with
  | none => some (.error error, store)
  | some transaction =>
      let abort := store.withTransaction pid (some { transaction with aborted := true })
      match fault with
      | .connectionLost => some (.error error, store.withTransaction pid none)
      | .statementError => some (.error error, abort)
      | _ =>
          if transaction.aborted then
            some (.error error, store)
          else
            match judge transaction with
            | .wait => none
            | .reject => some (.error error, abort)
            | .accept reply effects =>
                some (.ok reply,
                  store.withTransaction pid
                    (some ⟨transaction.pending ++ effects, false⟩))

/-- The committed data after a transaction is applied; an aborted one is
rolled back by its `COMMIT`. -/
def applied (apply : Table → Effect → Table)
    (store : TransactionalStore Pid Table Effect) (transaction : Transaction Effect) :
    Table :=
  if transaction.aborted then store.table
  else transaction.pending.foldl apply store.table

/-- `COMMIT`. -/
def commit (error : Error) (apply : Table → Effect → Table) (fault : Fault)
    (pid : Pid) (store : TransactionalStore Pid Table Effect) :
    Except Error Unit × TransactionalStore Pid Table Effect :=
  match store.transaction pid with
  | none => (.error error, store)
  | some transaction =>
      let closed := store.withTransaction pid none
      let committed := { closed with table := store.applied apply transaction }
      match fault with
      | .none => (.ok (), committed)
      | .acknowledgementLost => (.error error, committed)
      | _ => (.error error, closed)

/-- `ROLLBACK`.  When it fails the connection is gone, and the transaction
with it. -/
def rollback (error : Error) (fault : Fault) (pid : Pid)
    (store : TransactionalStore Pid Table Effect) :
    Except Error Unit × TransactionalStore Pid Table Effect :=
  match store.transaction pid, fault with
  | none, _ => (.error error, store)
  | some _, .none => (.ok (), store.withTransaction pid none)
  | some _, _ => (.error error, store.withTransaction pid none)

/-- `BEGIN` touches nothing but the transaction of its process. -/
theorem begin_cases (error : Error) (fault : Fault) (pid : Pid)
    (store : TransactionalStore Pid Table Effect) :
    begin error fault pid store =
        (.ok (), store.withTransaction pid (some ⟨[], false⟩)) ∨
      begin error fault pid store = (.error error, store) := by
  cases fault with
  | none => exact Or.inl rfl
  | statementError => exact Or.inr rfl
  | connectionLost => exact Or.inr rfl
  | acknowledgementLost => exact Or.inr rfl

/-- A statement succeeds in a sound transaction and adds its effects, or fails
and adds none. -/
theorem statement_cases {error : Error}
    {judge : Transaction Effect → Verdict Reply Effect} {fault : Fault}
    {pid : Pid} {store after : TransactionalStore Pid Table Effect}
    {reply : Except Error Reply}
    (outcome : statement error judge fault pid store = some (reply, after)) :
    (∃ transaction value effects,
        store.transaction pid = some transaction ∧
        transaction.aborted = false ∧
        judge transaction = .accept value effects ∧
        reply = .ok value ∧
        after =
          store.withTransaction pid (some ⟨transaction.pending ++ effects, false⟩)) ∨
      (reply = .error error ∧
        (after = store ∨ after = store.withTransaction pid none ∨
          ∃ transaction, store.transaction pid = some transaction ∧
            after =
              store.withTransaction pid (some { transaction with aborted := true }))) := by
  unfold statement at outcome
  cases opened : store.transaction pid with
  | none =>
      simp only [opened, Option.some.injEq, Prod.mk.injEq] at outcome
      exact Or.inr ⟨outcome.1.symm, Or.inl outcome.2.symm⟩
  | some transaction =>
      simp only [opened] at outcome
      split at outcome
      · simp only [Option.some.injEq, Prod.mk.injEq] at outcome
        exact Or.inr ⟨outcome.1.symm, Or.inr (Or.inl outcome.2.symm)⟩
      · simp only [Option.some.injEq, Prod.mk.injEq] at outcome
        exact Or.inr ⟨outcome.1.symm,
          Or.inr (Or.inr ⟨transaction, rfl, outcome.2.symm⟩)⟩
      · cases sound : transaction.aborted with
        | true =>
            simp only [sound, if_true, Option.some.injEq, Prod.mk.injEq] at outcome
            exact Or.inr ⟨outcome.1.symm, Or.inl outcome.2.symm⟩
        | false =>
            simp only [sound, Bool.false_eq_true, if_false] at outcome
            cases judged : judge transaction with
            | wait =>
                simp [judged] at outcome
            | reject =>
                simp only [judged, Option.some.injEq, Prod.mk.injEq] at outcome
                exact Or.inr ⟨outcome.1.symm,
                  Or.inr (Or.inr ⟨transaction, rfl, outcome.2.symm⟩)⟩
            | accept value effects =>
                simp only [judged, Option.some.injEq, Prod.mk.injEq] at outcome
                exact Or.inl ⟨transaction, value, effects, rfl, sound, judged,
                  outcome.1.symm, outcome.2.symm⟩

/-- A statement whose connection is not lost leaves an open transaction open. -/
theorem statement_keepsOpen {error : Error}
    {judge : Transaction Effect → Verdict Reply Effect} {fault : Fault}
    {pid : Pid} {store after : TransactionalStore Pid Table Effect}
    {reply : Except Error Reply} (connected : fault ≠ .connectionLost)
    (opened : store.transaction pid ≠ none)
    (outcome : statement error judge fault pid store = some (reply, after)) :
    after.transaction pid ≠ none := by
  rcases statement_cases outcome with
    ⟨_, _, _, _, _, _, _, rfl⟩ | ⟨-, rfl | lost | ⟨_, _, rfl⟩⟩
  · simp
  · exact opened
  · intro closed
    obtain ⟨transaction, isOpen⟩ := Option.ne_none_iff_exists'.mp opened
    unfold statement at outcome
    simp only [isOpen] at outcome
    split at outcome
    · exact connected rfl
    · cases outcome
      simp at closed
    · split at outcome
      · cases outcome
        exact opened closed
      · split at outcome <;> cases outcome <;> simp at closed
  · simp

/-- A statement that no lock holds up has an outcome. -/
theorem statement_ne_none {error : Error}
    {judge : Transaction Effect → Verdict Reply Effect} {fault : Fault}
    {pid : Pid} {store : TransactionalStore Pid Table Effect}
    (free : ∀ transaction, store.transaction pid = some transaction →
      judge transaction ≠ .wait) :
    statement error judge fault pid store ≠ none := by
  unfold statement
  cases opened : store.transaction pid with
  | none => simp
  | some transaction =>
      have neverWaits := free transaction opened
      dsimp only
      split
      · simp
      · simp
      · split
        · simp
        · split
          · next waits => exact absurd waits neverWaits
          · simp
          · simp

/-- `COMMIT` applies the whole transaction or none of it, and only the first
is acknowledged. -/
theorem commit_cases (error : Error) (apply : Table → Effect → Table)
    (fault : Fault) (pid : Pid) (store : TransactionalStore Pid Table Effect) :
    (commit error apply fault pid store = (.error error, store) ∧
        store.transaction pid = none) ∨
      commit error apply fault pid store =
          (.error error, store.withTransaction pid none) ∨
        ∃ transaction reply,
          store.transaction pid = some transaction ∧
          commit error apply fault pid store =
            (reply,
              { store.withTransaction pid none with
                table := store.applied apply transaction }) := by
  unfold commit
  cases opened : store.transaction pid with
  | none => exact Or.inl ⟨rfl, rfl⟩
  | some transaction =>
      cases fault with
      | none => exact Or.inr (Or.inr ⟨transaction, .ok (), rfl, rfl⟩)
      | statementError => exact Or.inr (Or.inl rfl)
      | connectionLost => exact Or.inr (Or.inl rfl)
      | acknowledgementLost =>
          exact Or.inr (Or.inr ⟨transaction, .error error, rfl, rfl⟩)

/-- `ROLLBACK` leaves the process without a transaction and the committed data
alone. -/
theorem rollback_cases (error : Error) (fault : Fault) (pid : Pid)
    (store : TransactionalStore Pid Table Effect) :
    ((rollback error fault pid store).2 = store ∧ store.transaction pid = none) ∨
      (rollback error fault pid store).2 = store.withTransaction pid none := by
  unfold rollback
  cases opened : store.transaction pid with
  | none => exact Or.inl ⟨rfl, rfl⟩
  | some transaction =>
      cases fault <;> exact Or.inr rfl

/-! ## Frame rules -/

/-- The transactions of all other processes are the same. -/
def SameElsewhere (pid : Pid) (before after : TransactionalStore Pid Table Effect) :
    Prop :=
  ∀ other, other ≠ pid → after.transaction other = before.transaction other

theorem sameElsewhere_withTransaction (pid : Pid)
    (store : TransactionalStore Pid Table Effect)
    (transaction : Option (Transaction Effect)) :
    SameElsewhere pid store (store.withTransaction pid transaction) :=
  fun _ different => withTransaction_other store different transaction

theorem begin_frame (error : Error) (fault : Fault) (pid : Pid)
    (store : TransactionalStore Pid Table Effect) :
    (begin error fault pid store).2.table = store.table ∧
      SameElsewhere pid store (begin error fault pid store).2 := by
  rcases begin_cases error fault pid store with opened | failed
  · rw [opened]
    exact ⟨rfl, sameElsewhere_withTransaction pid store _⟩
  · rw [failed]
    exact ⟨rfl, fun _ _ => rfl⟩

theorem statement_frame {error : Error}
    {judge : Transaction Effect → Verdict Reply Effect} {fault : Fault}
    {pid : Pid} {store after : TransactionalStore Pid Table Effect}
    {reply : Except Error Reply}
    (outcome : statement error judge fault pid store = some (reply, after)) :
    after.table = store.table ∧ SameElsewhere pid store after := by
  rcases statement_cases outcome with
    ⟨_, _, _, _, _, _, _, rfl⟩ | ⟨_, rfl | rfl | ⟨_, _, rfl⟩⟩
  · exact ⟨rfl, sameElsewhere_withTransaction pid store _⟩
  · exact ⟨rfl, fun _ _ => rfl⟩
  · exact ⟨rfl, sameElsewhere_withTransaction pid store _⟩
  · exact ⟨rfl, sameElsewhere_withTransaction pid store _⟩

theorem commit_sameElsewhere (error : Error) (apply : Table → Effect → Table)
    (fault : Fault) (pid : Pid) (store : TransactionalStore Pid Table Effect) :
    SameElsewhere pid store (commit error apply fault pid store).2 := by
  rcases commit_cases error apply fault pid store with
    ⟨failed, _⟩ | closed | ⟨_, _, _, committed⟩
  · rw [failed]
    exact fun _ _ => rfl
  · rw [closed]
    exact sameElsewhere_withTransaction pid store _
  · rw [committed]
    exact sameElsewhere_withTransaction pid store none

theorem rollback_frame (error : Error) (fault : Fault) (pid : Pid)
    (store : TransactionalStore Pid Table Effect) :
    (rollback error fault pid store).2.table = store.table ∧
      SameElsewhere pid store (rollback error fault pid store).2 := by
  rcases rollback_cases error fault pid store with ⟨same, _⟩ | closed
  · rw [same]
    exact ⟨rfl, fun _ _ => rfl⟩
  · rw [closed]
    exact ⟨rfl, sameElsewhere_withTransaction pid store _⟩

end TransactionalStore

end PlatformArchitecture.Foundations
