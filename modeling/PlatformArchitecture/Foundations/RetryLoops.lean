import Mathlib.Data.Nat.Find
import Mathlib.Order.Bounds.Basic

/-!
# Loops that try again

A loop makes one attempt after another, with a pause between them, until an
attempt gives a value, an error is not tried again, or no round is left.  What
it does is fixed by the first attempt that stops it.
-/

namespace PlatformArchitecture.Foundations

variable {Event Value Error : Type}

/-- What a loop does at every index: the attempt with its events, whether an
error is thrown at once, and the pause before the next attempt. -/
structure RetryLoop (Event Value Error : Type) where
  attempt : Nat → List Event × Except Error Value
  giveUp : Nat → Error → Bool
  pause : Nat → Event

namespace RetryLoop

/-- At most `remaining` rounds from an index on.  Behind the last one the loop
throws the error that was caught last. -/
def runFrom (loop : RetryLoop Event Value Error) :
    (remaining index : Nat) → (last : Error) → List Event × Except Error Value
  | 0, _, last => ([], .error last)
  | remaining + 1, index, _ =>
      match loop.attempt index with
      | (events, .ok value) => (events, .ok value)
      | (events, .error error) =>
          if loop.giveUp index error then (events, .error error)
          else
            let later := loop.runFrom remaining (index + 1) error
            (events ++ loop.pause index :: later.1, later.2)

/-- There is no next attempt after this one. -/
def Stops (loop : RetryLoop Event Value Error) (index : Nat) : Prop :=
  ∀ error, (loop.attempt index).2 = .error error → loop.giveUp index error = true

/-- The events of an attempt that is followed by another one. -/
def round (loop : RetryLoop Event Value Error) (index : Nat) : List Event :=
  (loop.attempt index).1 ++ [loop.pause index]

/-- The events of the attempts from an index on, with `count` pauses. -/
def events (loop : RetryLoop Event Value Error) (first count : Nat) : List Event :=
  (List.range' first count).flatMap loop.round ++ (loop.attempt (first + count)).1

variable {loop : RetryLoop Event Value Error} {first : Nat}

theorem runFrom_succ_of_stops (stops : loop.Stops first) (remaining : Nat) (last : Error) :
    loop.runFrom (remaining + 1) first last = loop.attempt first := by
  rw [runFrom]
  cases made : loop.attempt first with
  | mk events outcome =>
      cases outcome with
      | ok value => rfl
      | error error =>
          have thrown : loop.giveUp first error = true := stops error (congrArg Prod.snd made)
          simp only [thrown, if_true]

theorem exists_error_of_not_stops (continues : ¬ loop.Stops first) :
    ∃ error, (loop.attempt first).2 = .error error ∧ loop.giveUp first error = false := by
  simp only [Stops, not_forall, Bool.not_eq_true] at continues
  obtain ⟨error, failed, caught⟩ := continues
  exact ⟨error, failed, caught⟩

theorem runFrom_succ_of_not_stops (continues : ¬ loop.Stops first) (remaining : Nat)
    (last : Error) :
    ∃ error, loop.runFrom (remaining + 1) first last =
      (loop.round first ++ (loop.runFrom remaining (first + 1) error).1,
        (loop.runFrom remaining (first + 1) error).2) := by
  obtain ⟨error, failed, caught⟩ := exists_error_of_not_stops continues
  refine ⟨error, ?_⟩
  rw [runFrom, round]
  cases made : loop.attempt first with
  | mk events outcome =>
      rw [made] at failed
      obtain rfl : outcome = .error error := failed
      simp [caught]

theorem events_succ (loop : RetryLoop Event Value Error) (first count : Nat) :
    loop.events first (count + 1) = loop.round first ++ loop.events (first + 1) count := by
  have sameIndex : first + (count + 1) = first + 1 + count := by omega
  rw [events, events, sameIndex, List.range'_succ, List.flatMap_cons, List.append_assoc]

/-- A loop with enough rounds ends with the first attempt that stops it. -/
theorem runFrom_of_isLeast {count remaining : Nat}
    (least : IsLeast {index | loop.Stops (first + index)} count) (inside : count < remaining)
    (last : Error) :
    loop.runFrom remaining first last =
      (loop.events first count, (loop.attempt (first + count)).2) := by
  induction count generalizing first remaining last with
  | zero =>
      have stops : loop.Stops first := least.1
      obtain ⟨rounds, rfl⟩ := Nat.exists_eq_succ_of_ne_zero (Nat.ne_zero_of_lt inside)
      rw [runFrom_succ_of_stops stops]
      rfl
  | succ count inductionHypothesis =>
      have continues : ¬ loop.Stops first := by
        intro stops
        exact absurd (least.2 (show loop.Stops (first + 0) from stops)) (Nat.not_succ_le_zero _)
      have shifted : ∀ index, first + 1 + index = first + (index + 1) := by
        intro index
        omega
      have later : IsLeast {index | loop.Stops (first + 1 + index)} count := by
        constructor
        · show loop.Stops (first + 1 + count)
          rw [shifted]
          exact least.1
        · intro index stops
          have stopsThere : loop.Stops (first + (index + 1)) := shifted index ▸ stops
          exact Nat.le_of_succ_le_succ (least.2 stopsThere)
      obtain ⟨rounds, rfl⟩ := Nat.exists_eq_succ_of_ne_zero (Nat.ne_zero_of_lt inside)
      obtain ⟨error, step⟩ := runFrom_succ_of_not_stops continues rounds last
      have roundsLeft : count < rounds := Nat.lt_of_succ_lt_succ inside
      rw [step, inductionHypothesis later roundsLeft error, events_succ, shifted]

/-- Attempts before the first one that stops the loop have failed. -/
theorem failed_of_isLeast {count index : Nat}
    (least : IsLeast {index | loop.Stops (first + index)} count) (earlier : index < count) :
    ∃ error, (loop.attempt (first + index)).2 = .error error := by
  have continues : ¬ loop.Stops (first + index) := by
    intro stops
    exact absurd (least.2 stops) (Nat.not_le.mpr earlier)
  obtain ⟨error, failed, _caught⟩ := exists_error_of_not_stops continues
  exact ⟨error, failed⟩

/-- Where an attempt stops the loop, there is a first one. -/
theorem exists_isLeast_stops {limit : Nat} (stops : loop.Stops (first + limit)) :
    ∃ count ≤ limit, IsLeast {index | loop.Stops (first + index)} count := by
  classical
  have reached : ∃ index, loop.Stops (first + index) := ⟨limit, stops⟩
  refine ⟨Nat.find reached, Nat.find_min' reached stops, Nat.find_spec reached, ?_⟩
  intro index others
  exact Nat.find_min' reached others

/-- A loop whose last round stops it ends with the first attempt that does. -/
theorem runFrom_of_last_stops {rounds : Nat} (positive : 0 < rounds)
    (stops : loop.Stops (first + (rounds - 1))) (last : Error) :
    ∃ count < rounds, IsLeast {index | loop.Stops (first + index)} count ∧
      loop.runFrom rounds first last =
        (loop.events first count, (loop.attempt (first + count)).2) := by
  obtain ⟨count, atMost, least⟩ := exists_isLeast_stops stops
  have inside : count < rounds := by omega
  exact ⟨count, inside, least, runFrom_of_isLeast least inside last⟩

/-- Selecting events that no pause is selects those of the attempts. -/
theorem filterMap_events {Item : Type} {select : Event → Option Item}
    (noPause : ∀ index, select (loop.pause index) = none) (first count : Nat) :
    (loop.events first count).filterMap select =
      (List.range' first (count + 1)).flatMap fun index =>
        (loop.attempt index).1.filterMap select := by
  induction count generalizing first with
  | zero => simp [events]
  | succ count inductionHypothesis =>
      rw [events_succ, List.filterMap_append, inductionHypothesis, round, List.filterMap_append,
        List.filterMap_cons, noPause, @List.range'_succ first (count + 1), List.flatMap_cons]
      simp

end RetryLoop

end PlatformArchitecture.Foundations
