import Mathlib.Logic.Function.Basic

/-!
# Leases

A table grants one lease at a time and takes it back once its deadline is
reached, whether or not its holder knows.  Two holders that both believe they
hold a lease therefore acquired them one after the other, and the first of the
two leases had reached its deadline before the second began.
-/

namespace PlatformArchitecture.Foundations

/-- When a lease begins and ends. -/
structure Lease where
  since : Nat
  deadline : Nat
  lasts : since < deadline

/-- The lease that the table knows, and what each holder believes it holds. -/
structure LeaseTable (Holder : Type) where
  now : Nat
  current : Option (Holder × Lease)
  held : Holder → Option Lease

namespace LeaseTable

variable {Holder : Type}

def empty (now : Nat) : LeaseTable Holder :=
  ⟨now, none, fun _ => none⟩

/-- A lease that its holder uses is the one in the table or has reached its
deadline, and of two of them one reached it before the other began. -/
structure Consistent (table : LeaseTable Holder) : Prop where
  begun : ∀ holder lease, table.held holder = some lease → lease.since ≤ table.now
  kept : ∀ holder lease, table.held holder = some lease →
    table.current = some (holder, lease) ∨ lease.deadline ≤ table.now
  ordered : ∀ first second lease other, first ≠ second → table.held first = some lease →
    table.held second = some other → lease.since ≤ other.since → lease.deadline ≤ other.since

theorem consistent_empty (now : Nat) : (empty now : LeaseTable Holder).Consistent where
  begun := by
    intro holder lease holds
    cases holds
  kept := by
    intro holder lease holds
    cases holds
  ordered := by
    intro first second lease other _differ holds
    cases holds

/-- Taking the lease away from a table keeps it consistent where its holder has
stopped or the deadline is reached. -/
theorem Consistent.withoutCurrent {table : LeaseTable Holder} (consistent : table.Consistent)
    (mayGo : ∀ holder lease, table.current = some (holder, lease) →
      table.held holder = some lease → lease.deadline ≤ table.now) :
    ({ table with current := none } : LeaseTable Holder).Consistent where
  begun := consistent.begun
  kept := by
    intro holder lease holds
    right
    cases consistent.kept holder lease holds with
    | inl isCurrent => exact mayGo holder lease isCurrent holds
    | inr reached => exact reached
  ordered := consistent.ordered

variable [DecidableEq Holder]

/-- What may happen to a table.  A lease is released by its own holder, after
that holder has stopped to use it. -/
inductive Step (table : LeaseTable Holder) : LeaseTable Holder → Prop where
  | idle : Step table table
  | wait (elapsed : Nat) : Step table { table with now := table.now + elapsed }
  | expire {holder : Holder} {lease : Lease} (known : table.current = some (holder, lease))
      (reached : lease.deadline ≤ table.now) : Step table { table with current := none }
  | acquire (holder : Holder) {lease : Lease} (free : table.current = none)
      (begins : lease.since = table.now) :
      Step table { table with
        current := some (holder, lease)
        held := Function.update table.held holder (some lease) }
  | stop (holder : Holder) :
      Step table { table with held := Function.update table.held holder none }
  | release {holder : Holder} {lease : Lease} (known : table.current = some (holder, lease))
      (stopped : table.held holder = none) : Step table { table with current := none }

variable {table after : LeaseTable Holder}

theorem update_eq_some {holder other : Holder} {given : Option Lease} {used : Lease} :
    Function.update table.held holder given other = some used ↔
      (other = holder ∧ given = some used) ∨ (other ≠ holder ∧ table.held other = some used) := by
  by_cases same : other = holder
  · subst same
    simp
  · simp [same]

/-- A new lease begins after every deadline of those still in use. -/
theorem Consistent.acquire (consistent : table.Consistent) (holder : Holder) {lease : Lease}
    (free : table.current = none) (begins : lease.since = table.now) :
    ({ table with
      current := some (holder, lease)
      held := Function.update table.held holder (some lease) } : LeaseTable Holder).Consistent := by
  have earlier : ∀ other used, table.held other = some used → used.deadline ≤ table.now := by
    intro other used holds
    cases consistent.kept other used holds with
    | inl isCurrent =>
        rw [free] at isCurrent
        cases isCurrent
    | inr reached => exact reached
  constructor
  · intro other used holds
    rcases update_eq_some.mp holds with ⟨rfl, isNew⟩ | ⟨_differs, before⟩
    · cases isNew
      exact Nat.le_of_eq begins
    · exact consistent.begun other used before
  · intro other used holds
    rcases update_eq_some.mp holds with ⟨rfl, isNew⟩ | ⟨_differs, before⟩
    · cases isNew
      exact .inl rfl
    · exact .inr (earlier other used before)
  · intro first second used others differ holds otherHolds since
    rcases update_eq_some.mp holds with ⟨isHolder, isNew⟩ | ⟨_differs, before⟩
    · rcases update_eq_some.mp otherHolds with ⟨isOther, _isNew⟩ | ⟨_differs, otherBefore⟩
      · exact absurd (isHolder.trans isOther.symm) differ
      · -- The other lease would have to begin now and to have ended already.
        cases isNew
        have ended := earlier second others otherBefore
        have lasts := others.lasts
        omega
    · rcases update_eq_some.mp otherHolds with ⟨_isOther, isNew⟩ | ⟨_differs, otherBefore⟩
      · cases isNew
        have ended := earlier first used before
        omega
      · exact consistent.ordered first second used others differ before otherBefore since

theorem Consistent.stop (consistent : table.Consistent) (holder : Holder) :
    ({ table with held := Function.update table.held holder none } :
      LeaseTable Holder).Consistent := by
  have before : ∀ other used, Function.update table.held holder none other = some used →
      table.held other = some used := by
    intro other used holds
    rcases update_eq_some.mp holds with ⟨_same, isNone⟩ | ⟨_differs, unchanged⟩
    · cases isNone
    · exact unchanged
  constructor
  · intro other used holds
    exact consistent.begun other used (before other used holds)
  · intro other used holds
    exact consistent.kept other used (before other used holds)
  · intro first second used others differ holds otherHolds
    exact consistent.ordered first second used others differ (before first used holds)
      (before second others otherHolds)

theorem Consistent.step (consistent : table.Consistent) (happens : Step table after) :
    after.Consistent := by
  cases happens with
  | idle => exact consistent
  | wait elapsed =>
      constructor
      · intro holder lease holds
        have begun := consistent.begun holder lease holds
        dsimp only
        omega
      · intro holder lease holds
        cases consistent.kept holder lease holds with
        | inl isCurrent => exact .inl isCurrent
        | inr reached => exact .inr (Nat.le_add_right_of_le reached)
      · exact consistent.ordered
  | expire known reached =>
      refine consistent.withoutCurrent ?_
      intro holder lease isCurrent _holds
      rw [known] at isCurrent
      cases isCurrent
      exact reached
  | acquire holder free begins => exact consistent.acquire holder free begins
  | stop holder => exact consistent.stop holder
  | release known stopped =>
      refine consistent.withoutCurrent ?_
      intro holder lease isCurrent holds
      rw [known] at isCurrent
      cases isCurrent
      rw [stopped] at holds
      cases holds

end LeaseTable

end PlatformArchitecture.Foundations
