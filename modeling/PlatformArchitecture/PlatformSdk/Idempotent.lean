import Mathlib.Data.List.Nodup
import Mathlib.Logic.Function.Basic
import PlatformArchitecture.Foundations.Run

/-!
# `idempotent`

A call looks the key up, runs the operation when it finds nothing and stores
the value.  Lookup, operation and put are separate, and a missing entry is told
by `null`, so nothing is reserved for the call that runs the operation.  One
key is considered; the store answers each request at one moment.
-/

namespace PlatformArchitecture.PlatformSdk

open PlatformArchitecture.Foundations

namespace Idempotent

variable {Value : Type}

/-- Where a call is.  A value of the operation can be `null`, which is `none`;
a value found in the store is not. -/
inductive Stage (Value : Type) where
  | absent
  | looking
  | found (prior : Value)
  | missed
  | operating
  | putting (value : Option Value)
  | returnedPrior (prior : Value)
  | returned (value : Option Value)
  | operationFailed
  | putFailed (value : Option Value)

/-- How the store treats a put. -/
inductive PutReply where
  | stored
  | storedAndThrew
  | threw

/-- The calls, the entry of the key and the calls whose operation was run. -/
structure State (Value : Type) where
  calls : Nat → Stage Value
  entry : Option (Option Value)
  executions : List Nat

def initial : State Value :=
  ⟨fun _ => .absent, none, []⟩

inductive Event (Value : Type) where
  | call (id : Nat)
  | lookup (id : Nat)
  | proceed (id : Nat)
  | operationSettles (id : Nat) (outcome : Option (Option Value))
  | put (id : Nat) (reply : PutReply)
  /-- The time to live of the entry is over. -/
  | expire

/-- `store.get(key)`: a stored `null` reads as no entry. -/
def State.get (state : State Value) : Option Value :=
  state.entry.join

def State.move (state : State Value) (id : Nat) (stage : Stage Value) : State Value :=
  { state with calls := Function.update state.calls id stage }

def step (state : State Value) : Event Value → State Value
  | .call id =>
      match state.calls id with
      | .absent => state.move id .looking
      | _ => state
  | .lookup id =>
      match state.calls id with
      | .looking =>
          match state.get with
          | some prior => state.move id (.found prior)
          | none => state.move id .missed
      | _ => state
  | .proceed id =>
      match state.calls id with
      | .found prior => state.move id (.returnedPrior prior)
      | .missed =>
          { state.move id .operating with executions := state.executions ++ [id] }
      | _ => state
  | .operationSettles id outcome =>
      match state.calls id with
      | .operating =>
          match outcome with
          | some value => state.move id (.putting value)
          | none => state.move id .operationFailed
      | _ => state
  | .put id reply =>
      match state.calls id with
      | .putting value =>
          match reply with
          | .stored => { state.move id (.returned value) with entry := some value }
          | .storedAndThrew => { state.move id (.putFailed value) with entry := some value }
          | .threw => state.move id (.putFailed value)
      | _ => state
  | .expire => { state with entry := none }

/-- What a call has returned. -/
def Stage.result : Stage Value → Option (Option Value)
  | .returnedPrior prior => some (some prior)
  | .returned value => some value
  | _ => none

/-- The value the operation of a call has produced. -/
def Stage.produced : Stage Value → Option (Option Value)
  | .putting value => some value
  | .returned value => some value
  | .putFailed value => some value
  | _ => none

/-- The value a call has found in the store. -/
def Stage.prior : Stage Value → Option Value
  | .found prior => some prior
  | .returnedPrior prior => some prior
  | _ => none

/-- The lookup of the call was answered `null`. -/
def Stage.Missed : Stage Value → Prop
  | .missed => True
  | .operating => True
  | .putting _ => True
  | .returned _ => True
  | .operationFailed => True
  | .putFailed _ => True
  | _ => False

/-- The operation was run at most once and the calls that returned agree. -/
def OnceAndAgreed (state : State Value) : Prop :=
  state.executions.length ≤ 1 ∧
    ∀ id other value otherValue, (state.calls id).result = some value →
      (state.calls other).result = some otherValue → value = otherValue

/-- A lookup that is answered `null` is the first that is. -/
def MissesFirst (state : State Value) : Event Value → Prop
  | .lookup id =>
      match state.calls id with
      | .looking => state.get = none → ∀ other, ¬ (state.calls other).Missed
      | _ => True
  | _ => True

/-- What holds between two steps where no second lookup misses: the values that
are stored and found come from the one call that runs the operation. -/
structure SingleRunner (state : State Value) : Prop where
  unique : ∀ id other, (state.calls id).Missed → (state.calls other).Missed → id = other
  executed : ∀ id ∈ state.executions, (state.calls id).Missed ∧ state.calls id ≠ .missed
  nodup : state.executions.Nodup
  entry : ∀ value, state.entry = some value → ∃ id, (state.calls id).produced = some value
  prior : ∀ id value, (state.calls id).prior = some value →
    ∃ owner, (state.calls owner).produced = some (some value)

theorem missed_of_produced {stage : Stage Value} {value : Option Value}
    (produced : stage.produced = some value) : stage.Missed := by
  cases stage with
  | putting held => trivial
  | returned held => trivial
  | putFailed held => trivial
  | absent => cases produced
  | looking => cases produced
  | found prior => cases produced
  | missed => cases produced
  | operating => cases produced
  | returnedPrior prior => cases produced
  | operationFailed => cases produced

private theorem calls_move (state : State Value) (id : Nat) (stage : Stage Value) :
    (state.move id stage).calls = Function.update state.calls id stage :=
  rfl

/-- A call moves on and keeps what it has produced. -/
theorem SingleRunner.move {state : State Value} {id : Nat} {stage : Stage Value}
    (single : SingleRunner state)
    (misses : stage.Missed → (state.calls id).Missed ∨ ∀ other, ¬ (state.calls other).Missed)
    (runs : id ∈ state.executions → stage.Missed ∧ stage ≠ .missed)
    (produces : ∀ value, (state.calls id).produced = some value → stage.produced = some value)
    (finds : ∀ value, stage.prior = some value →
      (state.calls id).prior = some value ∨ state.entry = some (some value)) :
    SingleRunner (state.move id stage) := by
  have produced_move : ∀ {value : Option Value},
      (∃ owner, (state.calls owner).produced = some value) →
        ∃ owner, ((state.move id stage).calls owner).produced = some value := by
    rintro value ⟨owner, produced⟩
    refine ⟨owner, ?_⟩
    rw [calls_move, Function.update_apply]
    split
    · next same => exact produces value (same ▸ produced)
    · exact produced
  have missed_move : ∀ {other : Nat}, ((state.move id stage).calls other).Missed →
      (state.calls other).Missed ∨ other = id ∧ ∀ each, ¬ (state.calls each).Missed := by
    intro other missed
    rw [calls_move, Function.update_apply] at missed
    split at missed
    · next same =>
      rcases misses missed with already | first
      · exact Or.inl (same ▸ already)
      · exact Or.inr ⟨same, first⟩
    · exact Or.inl missed
  constructor
  case unique =>
    intro one other missed otherMissed
    rcases missed_move missed with already | ⟨rfl, first⟩
    · rcases missed_move otherMissed with otherAlready | ⟨_, first⟩
      · exact single.unique one other already otherAlready
      · exact absurd already (first one)
    · rcases missed_move otherMissed with otherAlready | ⟨rfl, _⟩
      · exact absurd otherAlready (first other)
      · rfl
  case executed =>
    intro one member
    rw [calls_move, Function.update_apply]
    split
    · next same => exact runs (same ▸ member)
    · exact single.executed one member
  case nodup => exact single.nodup
  case entry =>
    intro value isEntry
    exact produced_move (single.entry value isEntry)
  case prior =>
    intro one value isPrior
    rw [calls_move, Function.update_apply] at isPrior
    split at isPrior
    · rcases finds value isPrior with already | isEntry
      · exact produced_move (single.prior id value already)
      · exact produced_move (single.entry (some value) isEntry)
    · exact produced_move (single.prior one value isPrior)

/-- A call that ran its operation is past the miss. -/
private theorem not_executed {state : State Value} {id : Nat} (single : SingleRunner state)
    (before : ¬ (state.calls id).Missed ∨ state.calls id = .missed) :
    id ∉ state.executions := by
  intro member
  obtain ⟨missed, started⟩ := single.executed id member
  rcases before with notMissed | isMissed
  · exact notMissed missed
  · exact started isMissed

/-- A call that has produced nothing has nothing to keep. -/
private theorem keeps_of_nothing {before next : Stage Value} (nothing : before.produced = none)
    (value : Option Value) (produced : before.produced = some value) :
    next.produced = some value := by
  rw [nothing] at produced
  cases produced

/-- What the store is left with after a put belongs to the call that put it. -/
theorem SingleRunner.store {state : State Value} (single : SingleRunner state) {id : Nat}
    {value : Option Value} (produced : (state.calls id).produced = some value) :
    SingleRunner { state with entry := some value } where
  unique := single.unique
  executed := single.executed
  nodup := single.nodup
  entry _other isEntry := ⟨id, Option.some.inj isEntry ▸ produced⟩
  prior := single.prior

theorem SingleRunner.expire {state : State Value} (single : SingleRunner state) :
    SingleRunner { state with entry := none } where
  unique := single.unique
  executed := single.executed
  nodup := single.nodup
  entry _value isEntry := absurd isEntry.symm (Option.some_ne_none _)
  prior := single.prior

private theorem lookup_single {state : State Value} {id : Nat} (single : SingleRunner state)
    (looking : state.calls id = .looking) (condition : MissesFirst state (.lookup id)) :
    SingleRunner (step state (.lookup id)) := by
  have notExecuted : id ∉ state.executions :=
    not_executed single (Or.inl (by rw [looking]; exact False.elim))
  have nothing : (state.calls id).produced = none := looking ▸ rfl
  dsimp only [step]
  rw [looking]
  dsimp only
  split
  · next prior isPrior =>
    apply single.move
    · exact False.elim
    · exact fun member => absurd member notExecuted
    · exact keeps_of_nothing nothing
    · intro value same
      cases same
      exact Or.inr (Option.join_eq_some_iff.mp isPrior)
  · next isNone =>
    simp only [MissesFirst, looking] at condition
    apply single.move
    · exact fun _missed => Or.inr (condition isNone)
    · exact fun member => absurd member notExecuted
    · exact keeps_of_nothing nothing
    · intro value impossible
      cases impossible

private theorem proceed_single {state : State Value} {id : Nat} (single : SingleRunner state) :
    SingleRunner (step state (.proceed id)) := by
  dsimp only [step]
  split
  · next prior isFound =>
    have notExecuted : id ∉ state.executions :=
      not_executed single (Or.inl (by rw [isFound]; exact False.elim))
    apply single.move
    · exact False.elim
    · exact fun member => absurd member notExecuted
    · exact keeps_of_nothing (isFound ▸ rfl)
    · intro value same
      rw [isFound]
      exact Or.inl same
  · next isMissed =>
    have notExecuted : id ∉ state.executions := not_executed single (Or.inr isMissed)
    have moved : SingleRunner (state.move id .operating) := by
      apply single.move
      · intro _missed
        rw [isMissed]
        exact Or.inl trivial
      · exact fun member => absurd member notExecuted
      · exact keeps_of_nothing (isMissed ▸ rfl)
      · intro value impossible
        cases impossible
    refine ⟨moved.unique, ?_, ?_, moved.entry, moved.prior⟩
    · intro other member
      rcases List.mem_append.mp member with earlier | isLast
      · exact moved.executed other earlier
      · obtain rfl := List.mem_singleton.mp isLast
        have operating : (state.move other .operating).calls other = .operating := by
          rw [calls_move, Function.update_self]
        show ((state.move other .operating).calls other).Missed ∧
          (state.move other .operating).calls other ≠ .missed
        rw [operating]
        exact ⟨trivial, nofun⟩
    · exact List.nodup_append.mpr ⟨moved.nodup, List.nodup_singleton id,
        fun earlier member last isLast same =>
          notExecuted (List.mem_singleton.mp isLast ▸ same ▸ member)⟩
  · exact single

private theorem operationSettles_single {state : State Value} {id : Nat}
    (single : SingleRunner state) (outcome : Option (Option Value)) :
    SingleRunner (step state (.operationSettles id outcome)) := by
  dsimp only [step]
  split
  · next operating =>
    have nothing : (state.calls id).produced = none := operating ▸ rfl
    have missed : (state.calls id).Missed := by
      rw [operating]
      trivial
    cases outcome with
    | some value =>
        apply single.move
        · exact fun _missed => Or.inl missed
        · exact fun _member => ⟨trivial, nofun⟩
        · exact keeps_of_nothing nothing
        · exact fun value impossible => absurd impossible.symm (Option.some_ne_none _)
    | none =>
        apply single.move
        · exact fun _missed => Or.inl missed
        · exact fun _member => ⟨trivial, nofun⟩
        · exact keeps_of_nothing nothing
        · exact fun value impossible => absurd impossible.symm (Option.some_ne_none _)
  · exact single

private theorem put_single {state : State Value} {id : Nat} (single : SingleRunner state)
    (reply : PutReply) : SingleRunner (step state (.put id reply)) := by
  dsimp only [step]
  split
  · next value putting =>
    have moved : ∀ {stage : Stage Value}, stage.Missed → stage ≠ .missed →
        stage.produced = some value → stage.prior = none →
          SingleRunner (state.move id stage) := by
      intro stage missed started produced noPrior
      apply single.move
      · intro _missed
        rw [putting]
        exact Or.inl trivial
      · exact fun _member => ⟨missed, started⟩
      · intro held isHeld
        rw [putting] at isHeld
        cases isHeld
        exact produced
      · intro prior isPrior
        rw [noPrior] at isPrior
        cases isPrior
    have producedBy : ∀ {stage : Stage Value}, stage.produced = some value →
        ((state.move id stage).calls id).produced = some value := by
      intro stage produced
      rw [calls_move, Function.update_self]
      exact produced
    cases reply with
    | stored => exact (@moved (.returned value) trivial nofun rfl rfl).store (producedBy rfl)
    | storedAndThrew =>
        exact (@moved (.putFailed value) trivial nofun rfl rfl).store (producedBy rfl)
    | threw => exact @moved (.putFailed value) trivial nofun rfl rfl
  · exact single

theorem step_singleRunner (state : State Value) (event : Event Value)
    (single : SingleRunner state) (condition : MissesFirst state event) :
    SingleRunner (step state event) := by
  cases event with
  | call id =>
      dsimp only [step]
      split
      · next isAbsent =>
        apply single.move
        · exact False.elim
        · have notExecuted : id ∉ state.executions :=
            not_executed single (Or.inl (by rw [isAbsent]; exact False.elim))
          exact fun member => absurd member notExecuted
        · exact keeps_of_nothing (isAbsent ▸ rfl)
        · exact fun value impossible => absurd impossible.symm (Option.some_ne_none _)
      · exact single
  | lookup id =>
      by_cases looking : state.calls id = .looking
      · exact lookup_single single looking condition
      · have same : step state (.lookup id) = state := by
          dsimp only [step]
          split
          · next isLooking => exact absurd isLooking looking
          · rfl
        rw [same]
        exact single
  | proceed id => exact proceed_single single
  | operationSettles id outcome => exact operationSettles_single single outcome
  | put id reply => exact put_single single reply
  | expire => exact single.expire

/-- What a call returns is its own value or one that it has found. -/
private theorem produced_or_prior_of_result {stage : Stage Value} {value : Option Value}
    (isResult : stage.result = some value) :
    stage.produced = some value ∨ ∃ prior, stage.prior = some prior ∧ value = some prior := by
  cases stage with
  | returned held => exact Or.inl isResult
  | returnedPrior prior =>
      cases isResult
      exact Or.inr ⟨prior, rfl, rfl⟩
  | absent => cases isResult
  | looking => cases isResult
  | found prior => cases isResult
  | missed => cases isResult
  | operating => cases isResult
  | putting held => cases isResult
  | operationFailed => cases isResult
  | putFailed held => cases isResult

private theorem produced_of_result {state : State Value} (single : SingleRunner state) {id : Nat}
    {value : Option Value} (isResult : (state.calls id).result = some value) :
    ∃ owner, (state.calls owner).produced = some value := by
  rcases produced_or_prior_of_result isResult with produced | ⟨prior, isPrior, rfl⟩
  · exact ⟨id, produced⟩
  · exact single.prior id prior isPrior

theorem SingleRunner.onceAndAgreed {state : State Value} (single : SingleRunner state) :
    OnceAndAgreed state := by
  constructor
  · have nodup := single.nodup
    cases isList : state.executions with
    | nil => exact Nat.zero_le 1
    | cons first rest =>
        cases rest with
        | nil => exact Nat.le_refl 1
        | cons second others =>
            rw [isList] at nodup
            have firstMissed :=
              (single.executed first (isList ▸ List.mem_cons_self)).1
            have secondMissed :=
              (single.executed second (isList ▸ List.mem_cons_of_mem first List.mem_cons_self)).1
            have same := single.unique first second firstMissed secondMissed
            exact absurd (same ▸ List.mem_cons_self) (List.nodup_cons.mp nodup).1
  · intro id other value otherValue isResult otherResult
    obtain ⟨owner, produced⟩ := produced_of_result single isResult
    obtain ⟨otherOwner, otherProduced⟩ := produced_of_result single otherResult
    have sameOwner :=
      single.unique owner otherOwner (missed_of_produced produced)
        (missed_of_produced otherProduced)
    rw [sameOwner, otherProduced] at produced
    exact (Option.some.inj produced).symm

/-- The operation is run at most once and its value agreed on where no second
lookup is answered `null`. -/
theorem onceAndAgreed_of_missesFirst (events : List (Event Value))
    (every : EveryStep step MissesFirst initial events) :
    OnceAndAgreed (run step (initial : State Value) events) := by
  have start : SingleRunner (initial : State Value) := by
    refine ⟨fun id other missed _ => missed.elim, ?_, List.nodup_nil, ?_, ?_⟩
    · exact fun id member => absurd member List.not_mem_nil
    · exact fun value isEntry => absurd isEntry.symm (Option.some_ne_none _)
    · exact fun id value isPrior => absurd isPrior.symm (Option.some_ne_none _)
  exact (run_invariant (fun state event => step_singleRunner state event) start every).onceAndAgreed

/-- The second call looks when the first has stored its value. -/
def secondFinds : List (Event Nat) :=
  [.call 0, .call 1, .lookup 0, .proceed 0, .operationSettles 0 (some (some 5)),
    .put 0 .stored, .lookup 1, .proceed 1]

theorem onceAndAgreed_secondFinds : OnceAndAgreed (run step (initial : State Nat) secondFinds) := by
  refine onceAndAgreed_of_missesFirst secondFinds
    ⟨trivial, trivial, ?_, trivial, trivial, trivial, ?_, trivial, trivial⟩
  · intro _isNone other missed
    have notMissed : ∀ call : Nat, ¬ (Function.update (Function.update
        (fun _ => (.absent : Stage Nat)) 0 .looking) 1 .looking call).Missed := by
      intro call
      rw [Function.update_apply, Function.update_apply]
      split
      · exact False.elim
      · split <;> exact False.elim
    exact notMissed other missed
  · intro isNone
    cases isNone

/-- A stored `null` reads as no entry, so the second of two calls in sequence
runs the operation again. -/
theorem nullResultRunsTwice :
    ¬ ∀ events : List (Event Nat), OnceAndAgreed (run step (initial : State Nat) events) := by
  intro runsOnce
  have once := (runsOnce
    [.call 0, .lookup 0, .proceed 0, .operationSettles 0 (some none), .put 0 .stored,
      .call 1, .lookup 1, .proceed 1]).1
  revert once
  decide

end Idempotent

end PlatformArchitecture.PlatformSdk
