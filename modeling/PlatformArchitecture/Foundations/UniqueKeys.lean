import Mathlib.Data.List.Nodup
import PlatformArchitecture.Foundations.Transactions

/-!
# A unique key under concurrent transactions

The keys of the committed rows are distinct, and so are the keys that open
transactions will add.  An insert keeps this when it fails on a key that is
visible to it and waits for a transaction that may still add the key.
-/

namespace PlatformArchitecture.Foundations

namespace TransactionalStore

variable {Pid Table Effect Key : Type} [DecidableEq Pid]

/-- A transaction that will make a key taken if it commits. -/
def writesKey [DecidableEq Key] (written : Effect → List Key) (key : Key)
    (opened : Transaction Effect) : Bool :=
  !opened.aborted && decide (key ∈ opened.pending.flatMap written)

/-- The keys in the table are distinct and stay so whichever of the open
transactions commit. -/
structure UniqueKeys (tableKeys : Table → List Key) (written : Effect → List Key)
    (store : TransactionalStore Pid Table Effect) : Prop where
  distinct : (tableKeys store.table).Nodup
  fresh : ∀ pid opened,
    store.transaction pid = some opened → opened.aborted = false →
      (tableKeys store.table ++ opened.pending.flatMap written).Nodup
  apart : ∀ pid other opened otherOpened, pid ≠ other →
    store.transaction pid = some opened → opened.aborted = false →
      store.transaction other = some otherOpened → otherOpened.aborted = false →
        ∀ key ∈ opened.pending.flatMap written,
          key ∉ otherOpened.pending.flatMap written

/-- Two open transactions insert no key twice. -/
def KeysApart (written : Effect → List Key) (first second : Transaction Effect) : Prop :=
  first.aborted = false → second.aborted = false →
    ∀ key ∈ first.pending.flatMap written, key ∉ second.pending.flatMap written

theorem KeysApart.symm {written : Effect → List Key} {first second : Transaction Effect}
    (apart : KeysApart written first second) : KeysApart written second first :=
  fun sound otherSound key member otherMember =>
    apart otherSound sound key otherMember member

namespace UniqueKeys

variable {tableKeys : Table → List Key} {written : Effect → List Key}
  {store : TransactionalStore Pid Table Effect}

/-- Replacing the transaction of a process by one that adds fresh keys. -/
theorem replace (unique : UniqueKeys tableKeys written store) (pid : Pid)
    (transaction : Option (Transaction Effect))
    (fresh : ∀ opened, transaction = some opened → opened.aborted = false →
      (tableKeys store.table ++ opened.pending.flatMap written).Nodup)
    (apart : ∀ opened other otherOpened, transaction = some opened →
      opened.aborted = false → other ≠ pid →
        store.transaction other = some otherOpened → otherOpened.aborted = false →
          ∀ key ∈ opened.pending.flatMap written,
            key ∉ otherOpened.pending.flatMap written) :
    UniqueKeys tableKeys written (store.withTransaction pid transaction) where
  distinct := unique.distinct
  fresh := forall_withTransaction fresh unique.fresh
  apart := by
    have keysApart : ∀ owner other opened otherOpened, owner ≠ other →
        (store.withTransaction pid transaction).transaction owner = some opened →
          (store.withTransaction pid transaction).transaction other = some otherOpened →
            KeysApart written opened otherOpened := by
      apply pairwise_withTransaction
      · exact fun _ _ apart => apart.symm
      · intro opened other otherOpened found different otherFound sound otherSound
        exact apart opened other otherOpened found sound different otherFound otherSound
      · intro owner other opened otherOpened different found otherFound sound otherSound
        exact
          unique.apart owner other opened otherOpened different found sound otherFound
            otherSound
    intro owner other opened otherOpened different found sound otherFound otherSound
    exact
      keysApart owner other opened otherOpened different found otherFound sound otherSound

theorem close (unique : UniqueKeys tableKeys written store) (pid : Pid) :
    UniqueKeys tableKeys written (store.withTransaction pid none) :=
  unique.replace pid none (by simp) (by simp)

theorem openEmpty (unique : UniqueKeys tableKeys written store) (pid : Pid) :
    UniqueKeys tableKeys written (store.withTransaction pid (some ⟨[], false⟩)) := by
  apply unique.replace pid
  · intro opened same _
    cases same
    simpa using unique.distinct
  · intro opened other otherOpened same _ _ _ _ key member
    cases same
    cases member

theorem abort (unique : UniqueKeys tableKeys written store) (pid : Pid)
    (pending : List Effect) :
    UniqueKeys tableKeys written
      (store.withTransaction pid (some ⟨pending, true⟩)) := by
  apply unique.replace pid
  · intro opened same sound
    cases same
    cases sound
  · intro opened other otherOpened same sound
    cases same
    cases sound

/-- A statement that fails adds no key. -/
theorem failed (unique : UniqueKeys tableKeys written store) {pid : Pid}
    {after : TransactionalStore Pid Table Effect}
    (left : after = store ∨ after = store.withTransaction pid none ∨
      ∃ transaction, store.transaction pid = some transaction ∧
        after = store.withTransaction pid (some { transaction with aborted := true })) :
    UniqueKeys tableKeys written after := by
  rcases left with rfl | rfl | ⟨opened, _, rfl⟩
  · exact unique
  · exact unique.close pid
  · exact unique.abort pid opened.pending

/-- Effects that insert nothing. -/
theorem keep (unique : UniqueKeys tableKeys written store) {pid : Pid}
    {opened : Transaction Effect} (found : store.transaction pid = some opened)
    (sound : opened.aborted = false) {effects : List Effect}
    (none : effects.flatMap written = []) :
    UniqueKeys tableKeys written
      (store.withTransaction pid (some ⟨opened.pending ++ effects, false⟩)) := by
  apply unique.replace pid
  · intro now same _
    cases same
    simpa [none] using unique.fresh pid opened found sound
  · intro now other otherOpened same _ different otherFound otherSound
    cases same
    simpa [none] using
      unique.apart pid other opened otherOpened (Ne.symm different) found sound
        otherFound otherSound

/-- An effect that inserts a key which no row it sees has and no other open
transaction will add. -/
theorem insert [DecidableEq Key] (unique : UniqueKeys tableKeys written store) {pid : Pid}
    {opened : Transaction Effect} (found : store.transaction pid = some opened)
    (sound : opened.aborted = false) {effect : Effect} {key : Key}
    (writes : written effect = [key])
    (unseen : key ∉ tableKeys store.table ++ opened.pending.flatMap written)
    (alone : store.anyOther pid (writesKey written key) = false) :
    UniqueKeys tableKeys written
      (store.withTransaction pid (some ⟨opened.pending ++ [effect], false⟩)) := by
  have extended :
      (opened.pending ++ [effect]).flatMap written =
        opened.pending.flatMap written ++ [key] := by
    simp [writes]
  apply unique.replace pid
  · intro now same _
    cases same
    change (_ ++ (opened.pending ++ [effect]).flatMap written).Nodup
    rw [extended, ← List.append_assoc, List.nodup_append]
    refine ⟨unique.fresh pid opened found sound, by simp, ?_⟩
    intro earlier member added last same
    rw [same, List.mem_singleton.mp last] at member
    exact unseen member
  · intro now other otherOpened same _ different otherFound otherSound added member
    cases same
    rw [show (opened.pending ++ [effect]).flatMap written = _ from extended,
      List.mem_append, List.mem_singleton] at member
    rcases member with old | rfl
    · exact
        unique.apart pid other opened otherOpened (Ne.symm different) found sound
          otherFound otherSound added old
    · have harmless := anyOther_eq_false alone different otherFound
      simpa [writesKey, otherSound] using harmless

/-- Committing a transaction adds its keys to the table. -/
theorem commit (unique : UniqueKeys tableKeys written store) {pid : Pid}
    {opened : Transaction Effect} (found : store.transaction pid = some opened)
    {table : Table}
    (rolledBack : opened.aborted = true → table = store.table)
    (applied : opened.aborted = false →
      tableKeys table = tableKeys store.table ++ opened.pending.flatMap written) :
    UniqueKeys tableKeys written
      { store.withTransaction pid none with table := table } := by
  have closed := unique.close pid
  cases sound : opened.aborted with
  | true =>
      rw [rolledBack sound]
      exact closed
  | false =>
      refine ⟨?_, ?_, closed.apart⟩
      · change (tableKeys table).Nodup
        rw [applied sound]
        exact unique.fresh pid opened found sound
      · intro other otherOpened otherFound otherSound
        change (store.withTransaction pid none).transaction other = _ at otherFound
        change (tableKeys table ++ _).Nodup
        have different : other ≠ pid := by
          intro same
          subst other
          simp at otherFound
        rw [withTransaction_other _ different] at otherFound
        have otherKeys := unique.fresh other otherOpened otherFound otherSound
        rw [List.nodup_append] at otherKeys
        rw [applied sound, List.nodup_append]
        refine ⟨unique.fresh pid opened found sound, otherKeys.2.1, ?_⟩
        intro key keyMember otherKey otherMember same
        subst otherKey
        rcases List.mem_append.mp keyMember with old | new
        · exact otherKeys.2.2 key old key otherMember rfl
        · exact
            unique.apart pid other opened otherOpened (Ne.symm different) found sound
              otherFound otherSound key new otherMember

end UniqueKeys

end TransactionalStore

end PlatformArchitecture.Foundations
