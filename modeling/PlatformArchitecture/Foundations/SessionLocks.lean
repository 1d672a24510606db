import Mathlib.Data.List.Basic

/-!
# Locks of sessions

A session that holds a lock may take it again, and gives it up once for each
time it took it.  No two sessions hold the same lock, and a session that ends
gives up everything it holds.
-/

namespace PlatformArchitecture.Foundations

/-- What is held, once for each time it was taken. -/
structure SessionLocks (Session Lock : Type) where
  held : List (Session × Lock)
  exclusive : ∀ first ∈ held, ∀ second ∈ held, first.2 = second.2 → first.1 = second.1

namespace SessionLocks

variable {Session Lock : Type}

def nothingHeld : SessionLocks Session Lock :=
  ⟨[], fun _ member => absurd member List.not_mem_nil⟩

/-- What remains of a table when some of what is held is given up. -/
def keepOnly (locks : SessionLocks Session Lock) (kept : List (Session × Lock))
    (part : ∀ entry ∈ kept, entry ∈ locks.held) : SessionLocks Session Lock where
  held := kept
  exclusive first member second otherMember same :=
    locks.exclusive first (part first member) second (part second otherMember) same

variable [DecidableEq Session] [DecidableEq Lock]

/-- Take a lock unless another session holds it. -/
def tryAcquire (locks : SessionLocks Session Lock) (session : Session) (lock : Lock) :
    Bool × SessionLocks Session Lock :=
  if available : ∀ entry ∈ locks.held, entry.2 = lock → entry.1 = session then
    (true,
      { held := (session, lock) :: locks.held
        exclusive := by
          intro first member second otherMember same
          rcases List.mem_cons.mp member with rfl | earlier
          · rcases List.mem_cons.mp otherMember with rfl | otherEarlier
            · rfl
            · exact (available second otherEarlier same.symm).symm
          · rcases List.mem_cons.mp otherMember with rfl | otherEarlier
            · exact available first earlier same
            · exact locks.exclusive first earlier second otherEarlier same })
  else (false, locks)

/-- Give a lock up once; whether it was held. -/
def unlock (locks : SessionLocks Session Lock) (session : Session) (lock : Lock) :
    Bool × SessionLocks Session Lock :=
  (locks.held.contains (session, lock),
    locks.keepOnly (locks.held.erase (session, lock)) fun _ member =>
      List.mem_of_mem_erase member)

/-- Sessions that end give up all their locks. -/
def endSessions (locks : SessionLocks Session Lock) (sessions : List Session) :
    SessionLocks Session Lock :=
  locks.keepOnly (locks.held.filter fun entry => !sessions.contains entry.1) fun _ member =>
    List.mem_of_mem_filter member

/-- How often a session holds a lock. -/
def holds (locks : SessionLocks Session Lock) (session : Session) (lock : Lock) : Nat :=
  locks.held.count (session, lock)

variable {locks : SessionLocks Session Lock} {session other : Session} {lock otherLock : Lock}

theorem mem_held_iff : (session, lock) ∈ locks.held ↔ 0 < locks.holds session lock :=
  List.count_pos_iff.symm

@[simp]
theorem holds_nothingHeld :
    (nothingHeld : SessionLocks Session Lock).holds session lock = 0 :=
  rfl

/-- Two sessions do not hold one lock. -/
theorem session_unique (holding : 0 < locks.holds session lock)
    (otherHolding : 0 < locks.holds other lock) : other = session :=
  locks.exclusive (other, lock) (mem_held_iff.mpr otherHolding) (session, lock)
    (mem_held_iff.mpr holding) rfl

/-- The lock is refused just when another session holds it. -/
theorem tryAcquire_refused_iff :
    (locks.tryAcquire session lock).1 = false ↔
      ∃ other, other ≠ session ∧ 0 < locks.holds other lock := by
  unfold tryAcquire
  split
  · next available =>
      simp only [reduceCtorEq, false_iff]
      intro ⟨other, different, holding⟩
      exact different (available (other, lock) (mem_held_iff.mpr holding) rfl)
  · next taken =>
      simp only [true_iff]
      push Not at taken
      obtain ⟨⟨holder, heldLock⟩, member, same, different⟩ := taken
      cases same
      exact ⟨holder, different, mem_held_iff.mp member⟩

/-- A refusal changes nothing. -/
theorem tryAcquire_refused (refused : (locks.tryAcquire session lock).1 = false) :
    (locks.tryAcquire session lock).2 = locks := by
  unfold tryAcquire at refused ⊢
  split
  · next available =>
      rw [dif_pos available] at refused
      cases refused
  · rfl

/-- A lock that is taken is held once more, and nothing else changes. -/
theorem holds_tryAcquire (taken : (locks.tryAcquire session lock).1 = true) :
    (locks.tryAcquire session lock).2.holds other otherLock =
      locks.holds other otherLock +
        if (session, lock) = (other, otherLock) then 1 else 0 := by
  unfold tryAcquire at taken ⊢
  split
  · simp [holds, List.count_cons]
  · next unavailable =>
      rw [dif_neg unavailable] at taken
      cases taken

theorem holds_unlock :
    (locks.unlock session lock).2.holds other otherLock =
      locks.holds other otherLock -
        if (session, lock) = (other, otherLock) then 1 else 0 := by
  simp [unlock, keepOnly, holds, List.count_erase]

/-- What is left of a table without the entries of some sessions. -/
theorem count_withoutSessions (sessions : List Session) (entries : List (Session × Lock)) :
    (entries.filter fun entry => !sessions.contains entry.1).count (session, lock) =
      if session ∈ sessions then 0 else entries.count (session, lock) := by
  by_cases ended : session ∈ sessions
  · rw [if_pos ended]
    apply List.count_eq_zero.mpr
    intro member
    have remains := (List.mem_filter.mp member).2
    simp [ended] at remains
  · rw [if_neg ended]
    exact List.count_filter (by simpa using ended)

theorem holds_endSessions (sessions : List Session) :
    (locks.endSessions sessions).holds session lock =
      if session ∈ sessions then 0 else locks.holds session lock :=
  count_withoutSessions sessions locks.held

end SessionLocks

end PlatformArchitecture.Foundations
