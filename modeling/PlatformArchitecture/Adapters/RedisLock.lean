import PlatformArchitecture.Foundations.JsNumbers
import PlatformArchitecture.Foundations.Leases
import PlatformArchitecture.Foundations.Run

/-!
# The Redis lock

A call of `withLock` sets the key if it is absent, runs its function while the
key is there or has expired, and then deletes the key if it still has the token
of the call.  Any number of calls on one key run side by side, and time passes
and the key expires between their steps.
-/

namespace PlatformArchitecture.Adapters

open PlatformArchitecture.Foundations

namespace RedisLockAdapter

/-! ## The commands of the server -/

/-- What the key holds.  The commands read the token and the deadline; the call
that set it and the time it did are history. -/
structure LockEntry (Call Token : Type) where
  token : Token
  lease : Lease
  acquiredBy : Call

/-- What the server reads of `'PX', ttlMs`, where `none` is `NaN`. -/
def readMilliseconds : Option JsNumber → Except String { ttl : Nat // 0 < ttl }
  | some (.finite value) =>
      if value.den = 1 ∧ value.num.natAbs < 2 ^ 63 then
        if positive : 0 < value.num then .ok ⟨value.num.toNat, by omega⟩
        else .error "ERR invalid expire time in 'set' command"
      else .error "ERR value is not an integer or out of range"
  | _ => .error "ERR value is not an integer or out of range"

variable {Call Token Value : Type}

/-- `redis.set(lockKey, token, 'PX', ttlMs, 'NX')`: the key afterwards, and
`'OK'` with the lease that begins, `null`, or an error. -/
def setNxPx (now : Nat) (c : Call) (token : Token) (ttlMs : Option JsNumber)
    (entry : Option (LockEntry Call Token)) :
    Option (LockEntry Call Token) × Except String (Option Lease) :=
  match readMilliseconds ttlMs with
  | .error error => (entry, .error error)
  | .ok ttl =>
      match entry with
      | some held => (some held, .ok none)
      | none =>
          let lease : Lease := ⟨now, now + ttl, Nat.lt_add_of_pos_right ttl.2⟩
          (some ⟨token, lease, c⟩, .ok (some lease))

/-- The release script: the key afterwards. -/
def releaseScript [DecidableEq Token] (token : Token)
    (entry : Option (LockEntry Call Token)) : Option (LockEntry Call Token) :=
  entry.filter fun held => held.token ≠ token

/-! ## A call -/

/-- How far a call of `withLock` is. -/
inductive Phase (Value : Type) where
  | notCalled
  /-- The command that sets the key is on its way. -/
  | setting (ttlMs : Option JsNumber)
  | setAnswered (reply : Except String (Option Lease))
  /-- `await fn()`. -/
  | running (lease : Lease)
  /-- The script is on its way. -/
  | releasing (outcome : Except String Value)
  | released (outcome : Except String Value)
  | ended (outcome : Except String Value)

/-- What a call awaits or is started by.  The promise of a command may reject
whether or not the server has executed it. -/
inductive Event (Value : Type) where
  | called (ttlMs : Option JsNumber)
  | setReplied
  | setRejected (error : String)
  | settled (outcome : Except String Value)
  | releaseReplied
  | releaseRejected (error : String)

/-- `withLock(key, ttlMs, fn)`, from one `await` to the next. -/
def Phase.next : Phase Value → Event Value → Phase Value
  | .notCalled, .called ttlMs => .setting ttlMs
  | .setting _, .setRejected error => .ended (.error error)
  | .setAnswered _, .setRejected error => .ended (.error error)
  | .setAnswered (.error error), .setReplied => .ended (.error error)
  | .setAnswered (.ok none), .setReplied => .ended (.error "LOCK_UNAVAILABLE")
  | .setAnswered (.ok (some lease)), .setReplied => .running lease
  | .running _, .settled outcome => .releasing outcome
  -- An error of the `finally` block takes the place of the outcome.
  | .releasing _, .releaseRejected error => .ended (.error error)
  | .released _, .releaseRejected error => .ended (.error error)
  | .released outcome, .releaseReplied => .ended outcome
  | phase, _ => phase

/-! ## Calls side by side -/

structure State (Call Token Value : Type) where
  now : Nat
  entry : Option (LockEntry Call Token)
  phase : Call → Phase Value

inductive Action (Call Value : Type) where
  | wait (elapsed : Nat)
  | expire
  | client (c : Call) (event : Event Value)
  | executeSet (c : Call)
  | executeRelease (c : Call)

def initial (now : Nat) : State Call Token Value :=
  ⟨now, none, fun _ => .notCalled⟩

section Steps

variable [DecidableEq Call] [DecidableEq Token] (token : Call → Token)

def State.setPhase (state : State Call Token Value) (c : Call) (phase : Phase Value) :
    State Call Token Value :=
  { state with phase := Function.update state.phase c phase }

def State.withEntry (state : State Call Token Value) (entry : Option (LockEntry Call Token)) :
    State Call Token Value :=
  { state with entry }

def step (state : State Call Token Value) : Action Call Value → State Call Token Value
  | .wait elapsed => { state with now := state.now + elapsed }
  | .expire => state.withEntry (state.entry.filter fun held => state.now < held.lease.deadline)
  | .client c event => state.setPhase c ((state.phase c).next event)
  | .executeSet c =>
      match state.phase c with
      | .setting ttlMs =>
          let (entry, reply) := setNxPx state.now c (token c) ttlMs state.entry
          (state.setPhase c (.setAnswered reply)).withEntry entry
      | _ => state
  | .executeRelease c =>
      match state.phase c with
      | .releasing outcome =>
          (state.setPhase c (.released outcome)).withEntry (releaseScript (token c) state.entry)
      | _ => state

/-- The script of a call leaves a key alone that another call has set. -/
def ReleasesOwn (state : State Call Token Value) (action : Action Call Value) : Prop :=
  ∀ c held, action = .executeRelease c → state.entry = some held → held.acquiredBy ≠ c →
    (step token state action).entry = some held

end Steps

/-- Of two functions that run, the one whose call set the key first has been
running since the key expired, before the other call set it. -/
def OverlapsLate (state : State Call Token Value) : Prop :=
  ∀ first second lease other, first ≠ second → state.phase first = .running lease →
    state.phase second = .running other → lease.since ≤ other.since →
      lease.deadline ≤ other.since ∧ other.since ≤ state.now

/-- The key has the token of the call that set it. -/
def State.TokensOwned (token : Call → Token) (state : State Call Token Value) : Prop :=
  ∀ held, state.entry = some held → held.token = token held.acquiredBy

/-! ## The table of leases -/

/-- The lease that a call has and may still use. -/
def Phase.lease : Phase Value → Option Lease
  | .setAnswered (.ok answer) => answer
  | .running lease => some lease
  | _ => none

def State.leases (state : State Call Token Value) : LeaseTable Call where
  now := state.now
  current := state.entry.map fun held => (held.acquiredBy, held.lease)
  held c := (state.phase c).lease

/-- The token in the key is that of the call that set it, and the leases of the
calls are those of a table. -/
structure State.Lawful (token : Call → Token) (state : State Call Token Value) : Prop where
  owned : state.TokensOwned token
  consistent : state.leases.Consistent

theorem lawful_initial (token : Call → Token) (start : Nat) :
    (initial start : State Call Token Value).Lawful token where
  owned := by
    intro held isEntry
    cases isEntry
  consistent := LeaseTable.consistent_empty start

/-- An `await` gives a call no lease that it did not have. -/
theorem lease_next (phase : Phase Value) (event : Event Value) :
    (phase.next event).lease = none ∨ (phase.next event).lease = phase.lease := by
  unfold Phase.next
  split <;> simp [Phase.lease]

/-- The command leaves the key as it is and gives no lease, or it finds the key
absent and sets it with the lease that it gives. -/
theorem setNxPx_cases {Call Token : Type} (Value : Type) (now : Nat) (c : Call) (token : Token)
    (ttlMs : Option JsNumber) (entry : Option (LockEntry Call Token)) :
    (∃ reply, setNxPx now c token ttlMs entry = (entry, reply) ∧
      (Phase.setAnswered reply : Phase Value).lease = none) ∨
    (entry = none ∧ ∃ lease, lease.since = now ∧
      setNxPx now c token ttlMs entry = (some ⟨token, lease, c⟩, .ok (some lease))) := by
  cases readMs : readMilliseconds ttlMs with
  | error error =>
      left
      refine ⟨.error error, ?_, rfl⟩
      simp [setNxPx, readMs]
  | ok ttl =>
      cases entry with
      | some held =>
          left
          refine ⟨.ok none, ?_, rfl⟩
          simp [setNxPx, readMs]
      | none =>
          right
          refine ⟨rfl, ⟨now, now + ttl, Nat.lt_add_of_pos_right ttl.2⟩, rfl, ?_⟩
          simp [setNxPx, readMs]

theorem leases_withEntry (state : State Call Token Value)
    (entry : Option (LockEntry Call Token)) :
    (state.withEntry entry).leases =
      { state.leases with current := entry.map fun held => (held.acquiredBy, held.lease) } :=
  rfl

theorem current_leases {state : State Call Token Value} {held : LockEntry Call Token}
    (isEntry : state.entry = some held) :
    state.leases.current = some (held.acquiredBy, held.lease) := by
  rw [State.leases, isEntry]
  rfl

theorem overlapsLate_of_consistent {state : State Call Token Value}
    (consistent : state.leases.Consistent) :
    OverlapsLate state := by
  intro first second lease other differ firstRuns secondRuns since
  have firstHolds : state.leases.held first = some lease := by
    show (state.phase first).lease = some lease
    rw [firstRuns]
    rfl
  have secondHolds : state.leases.held second = some other := by
    show (state.phase second).lease = some other
    rw [secondRuns]
    rfl
  exact ⟨consistent.ordered first second lease other differ firstHolds secondHolds since,
    consistent.begun second other secondHolds⟩

section Steps

variable [DecidableEq Call] {state : State Call Token Value}

/-- A condition on the key keeps it, or it goes as the table lets it go. -/
theorem step_filter {keeps : LockEntry Call Token → Bool}
    (mayGo : ∀ held, state.entry = some held → keeps held = false →
      LeaseTable.Step state.leases { state.leases with current := none }) :
    LeaseTable.Step state.leases (state.withEntry (state.entry.filter keeps)).leases := by
  cases filtered : state.entry.filter keeps with
  | some held =>
      have same : state.entry = some held := (Option.filter_eq_some_iff.mp filtered).1
      rw [← same]
      exact .idle
  | none =>
      cases isEntry : state.entry with
      | none =>
          rw [← isEntry]
          exact .idle
      | some held =>
          have fails : keeps held = false :=
            Bool.eq_false_iff.mpr (Option.filter_eq_none_iff.mp filtered held isEntry)
          exact mayGo held isEntry fails

theorem leases_setPhase (state : State Call Token Value) (c : Call) (phase : Phase Value) :
    (state.setPhase c phase).leases =
      { state.leases with held := Function.update state.leases.held c phase.lease } := by
  have held : (fun other => ((state.setPhase c phase).phase other).lease) =
      Function.update state.leases.held c phase.lease := by
    funext other
    by_cases same : other = c
    · subst same
      simp [State.setPhase]
    · simp [State.setPhase, same, State.leases]
  unfold State.leases
  rw [held]
  rfl

/-- A change of phase that gives no other lease is no step of the table, or its
holder stops. -/
theorem step_setPhase {c : Call} {phase : Phase Value}
    (keeps : phase.lease = none ∨ phase.lease = (state.phase c).lease) :
    LeaseTable.Step state.leases (state.setPhase c phase).leases := by
  rw [leases_setPhase]
  cases keeps with
  | inl noLease =>
      rw [noLease]
      exact .stop c
  | inr same =>
      have unchanged : Function.update state.leases.held c phase.lease = state.leases.held := by
        rw [same]
        exact Function.update_eq_self c _
      rw [unchanged]
      exact .idle

variable [DecidableEq Token] {token : Call → Token}

/-- The server sets the key for a call that finds it absent. -/
theorem leases_executeSet {c : Call} {ttlMs : Option JsNumber}
    (isSetting : state.phase c = .setting ttlMs) :
    LeaseTable.Step state.leases (step token state (.executeSet c)).leases := by
  have stepEq : step token state (.executeSet c) =
      (state.setPhase c (.setAnswered (setNxPx state.now c (token c) ttlMs state.entry).2)).withEntry
        (setNxPx state.now c (token c) ttlMs state.entry).1 := by
    simp only [step, isSetting]
  rw [stepEq]
  rcases setNxPx_cases Value state.now c (token c) ttlMs state.entry with
    ⟨reply, answers, noLease⟩ | ⟨absent, lease, begins, answers⟩
  · rw [answers]
    exact step_setPhase (.inl noLease)
  · rw [answers]
    have free : state.leases.current = none := by
      rw [State.leases, absent]
      rfl
    have acquires := LeaseTable.Step.acquire c free begins
    have after := leases_setPhase state c (.setAnswered (.ok (some lease)))
    rw [leases_withEntry, after]
    exact acquires

/-- The script of a call deletes the key that the call has set, and no call has a
lease while its script is on its way. -/
theorem leases_executeRelease (distinct : Function.Injective token)
    (owned : state.TokensOwned token) {c : Call} {outcome : Except String Value}
    (isReleasing : state.phase c = .releasing outcome) :
    LeaseTable.Step state.leases (step token state (.executeRelease c)).leases := by
  have stopped : state.leases.held c = none := by
    show (state.phase c).lease = none
    rw [isReleasing]
    rfl
  have sameLeases : (state.setPhase c (.released outcome)).leases = state.leases := by
    have unchanged : Function.update state.leases.held c none = state.leases.held := by
      rw [← stopped]
      exact Function.update_eq_self c _
    have afterwards := leases_setPhase state c (.released outcome)
    have noLease : (Phase.released outcome).lease = none := rfl
    rw [afterwards, noLease, unchanged]
  have stepEq : step token state (.executeRelease c) =
      (state.setPhase c (.released outcome)).withEntry
        ((state.setPhase c (.released outcome)).entry.filter
          fun held => held.token ≠ token c) := by
    simp only [step, isReleasing]
    rfl
  rw [stepEq, ← sameLeases]
  refine step_filter ?_
  intro held isEntry goes
  have ownToken : held.token = token c := by
    simpa using goes
  have isOwner : held.acquiredBy = c := distinct ((owned held isEntry).symm.trans ownToken)
  have known := current_leases isEntry
  rw [sameLeases] at known ⊢
  refine .release known ?_
  rw [isOwner]
  exact stopped

/-- Every step of the calls and of the server is one of the table. -/
theorem leases_step (distinct : Function.Injective token) (owned : state.TokensOwned token)
    (action : Action Call Value) :
    LeaseTable.Step state.leases (step token state action).leases := by
  cases action with
  | wait elapsed => exact .wait elapsed
  | expire =>
      refine step_filter ?_
      intro held isEntry goes
      have reached : held.lease.deadline ≤ state.now := by
        simpa using goes
      exact .expire (current_leases isEntry) reached
  | client c event => exact step_setPhase (lease_next _ event)
  | executeSet c =>
      cases isPhase : state.phase c with
      | setting ttlMs => exact leases_executeSet isPhase
      | _ =>
          simp only [step, isPhase]
          exact .idle
  | executeRelease c =>
      cases isPhase : state.phase c with
      | releasing outcome => exact leases_executeRelease distinct owned isPhase
      | _ =>
          simp only [step, isPhase]
          exact .idle

/-- Only a command sets the key, with the token of its call. -/
theorem tokensOwned_step (owned : state.TokensOwned token) (action : Action Call Value) :
    (step token state action).TokensOwned token := by
  intro held isEntry
  cases action with
  | wait elapsed => exact owned held isEntry
  | expire => exact owned held (Option.filter_eq_some_iff.mp isEntry).1
  | client c event => exact owned held isEntry
  | executeSet c =>
      cases isPhase : state.phase c with
      | setting ttlMs =>
          simp only [step, isPhase] at isEntry
          rcases setNxPx_cases Value state.now c (token c) ttlMs state.entry with
            ⟨reply, answers, _noLease⟩ | ⟨_absent, lease, _begins, answers⟩
          · rw [answers] at isEntry
            exact owned held isEntry
          · rw [answers] at isEntry
            cases isEntry
            rfl
      | _ =>
          simp only [step, isPhase] at isEntry
          exact owned held isEntry
  | executeRelease c =>
      cases isPhase : state.phase c with
      | releasing outcome =>
          simp only [step, isPhase] at isEntry
          exact owned held (Option.filter_eq_some_iff.mp isEntry).1
      | _ =>
          simp only [step, isPhase] at isEntry
          exact owned held isEntry

/-- A script compares the token, which is the token of one call only. -/
theorem releasesOwn_of_tokensOwned (distinct : Function.Injective token)
    (owned : state.TokensOwned token) (action : Action Call Value) :
    ReleasesOwn token state action := by
  rintro c held rfl isEntry otherCall
  have otherToken : held.token ≠ token c := by
    rw [owned held isEntry]
    exact distinct.ne otherCall
  cases isPhase : state.phase c with
  | releasing outcome =>
      simp only [step, isPhase]
      show releaseScript (token c) state.entry = some held
      rw [isEntry]
      exact Option.filter_some_pos (decide_eq_true otherToken)
  | _ =>
      simp only [step, isPhase]
      exact isEntry

theorem lawful_step (distinct : Function.Injective token) (state : State Call Token Value)
    (action : Action Call Value) (lawful : state.Lawful token) :
    (step token state action).Lawful token where
  owned := tokensOwned_step lawful.owned action
  consistent := lawful.consistent.step (leases_step distinct lawful.owned action)

/-- In every run the script of a call leaves the keys of other calls alone, and
two functions overlap only where the first call's key had expired before the
second call set it. -/
theorem withLock_safe (distinct : Function.Injective token) (start : Nat)
    (actions : List (Action Call Value)) :
    EveryStep (step token) (ReleasesOwn token) (initial start) actions ∧
      OverlapsLate (run (step token) (initial start) actions) := by
  have preserved : ∀ (state : State Call Token Value) action, state.Lawful token →
      (step token state action).Lawful token := lawful_step distinct
  constructor
  · have always : EveryStep (step token) (fun _ _ => True) (initial start) actions :=
      everyStep_of_forall (fun _ _ => trivial) _ _
    refine everyStep_of_invariant ?_ ?_ (lawful_initial token start) always
    · intro state action lawful _always
      exact preserved state action lawful
    · intro state action lawful _always
      exact releasesOwn_of_tokensOwned distinct lawful.owned action
  · have lawful := run_invariant_of_step preserved actions (lawful_initial token start)
    exact overlapsLate_of_consistent lawful.consistent

end Steps

/-- Two calls with five milliseconds each, of which the second sets the key after
the first has run for six. -/
def overlappingCalls : List (Action Nat Nat) :=
  [.client 0 (.called (some (.finite 5))), .executeSet 0, .client 0 .setReplied, .wait 6, .expire,
    .client 1 (.called (some (.finite 5))), .executeSet 1, .client 1 .setReplied,
    .client 0 (.settled (.ok 7)), .executeRelease 0]

theorem withLock_safe_overlappingCalls :
    EveryStep (step id) (ReleasesOwn id) (initial 0) overlappingCalls ∧
      ((⟨0, 5, by decide⟩ : Lease).deadline ≤ 6 ∧
        6 ≤ (run (step (id : Nat → Nat)) (initial 0) (overlappingCalls.take 8)).now) := by
  constructor
  · exact (withLock_safe Function.injective_id 0 overlappingCalls).1
  · exact (withLock_safe Function.injective_id 0 (overlappingCalls.take 8)).2 0 1 ⟨0, 5, by decide⟩
      ⟨6, 11, by decide⟩ (by decide) rfl rfl (by decide)

end RedisLockAdapter

end PlatformArchitecture.Adapters
