import Mathlib.Data.List.Pairwise
import Mathlib.Logic.Function.Basic

/-!
# Histories of written versions

A store keeps one current value for each key; a writer replaces it by a new
version.  When every write extends the value it replaces, the versions of a key
form one line: each version is extended by all later ones and by the current
value, so nothing that a version added is lost.
-/

namespace PlatformArchitecture.Foundations

universe u v w

variable {Key : Type u} {Writer : Type v} {Value : Type w}

/-- A version of the value of a key, and the value it replaced. -/
structure Version (Key : Type u) (Writer : Type v) (Value : Type w) where
  key : Key
  writer : Writer
  replaced : Option Value
  value : Value
  deriving DecidableEq

/-- The versions are in chronological order, and each of them is extended by
everything written to its key since. -/
structure Linear (extended : Value → Value → Prop) (current : Key → Option Value)
    (history : List (Version Key Writer Value)) : Prop where
  ordered : history.Pairwise fun earlier later =>
    earlier.key = later.key → extended earlier.value later.value
  reached : ∀ version ∈ history, ∃ value,
    current version.key = some value ∧ extended version.value value

theorem linear_nil (extended : Value → Value → Prop) (current : Key → Option Value) :
    Linear extended current ([] : List (Version Key Writer Value)) where
  ordered := List.Pairwise.nil
  reached := by
    intro version member
    cases member

/-- A write that extends the value it replaces keeps the history in line. -/
theorem Linear.write [DecidableEq Key] {extended : Value → Value → Prop}
    (refl : ∀ value, extended value value)
    (trans : ∀ {first second third}, extended first second →
      extended second third → extended first third)
    {current : Key → Option Value} {history : List (Version Key Writer Value)}
    (linear : Linear extended current history) (version : Version Key Writer Value)
    (extending : ∀ value, current version.key = some value →
      extended value version.value) :
    Linear extended (Function.update current version.key (some version.value))
      (history ++ [version]) := by
  have overtaken : ∀ earlier ∈ history, earlier.key = version.key →
      extended earlier.value version.value := by
    intro earlier member sameKey
    obtain ⟨value, isCurrent, reached⟩ := linear.reached earlier member
    rw [sameKey] at isCurrent
    exact trans reached (extending value isCurrent)
  constructor
  · rw [List.pairwise_append]
    refine ⟨linear.ordered, List.pairwise_singleton _ _, ?_⟩
    intro earlier member later isLast
    rw [List.mem_singleton.mp isLast]
    exact overtaken earlier member
  · intro earlier member
    by_cases sameKey : earlier.key = version.key
    · rw [sameKey, Function.update_self]
      refine ⟨version.value, rfl, ?_⟩
      rcases List.mem_append.mp member with old | new
      · exact overtaken earlier old sameKey
      · rw [List.mem_singleton.mp new]
        exact refl version.value
    · rw [Function.update_of_ne sameKey]
      rcases List.mem_append.mp member with old | new
      · exact linear.reached earlier old
      · exact absurd (congrArg Version.key (List.mem_singleton.mp new)) sameKey

/-- What a version holds is held by every later version of its key. -/
theorem Linear.extended_later {extended : Value → Value → Prop}
    {current : Key → Option Value} {earlier later : List (Version Key Writer Value)}
    {version : Version Key Writer Value}
    (linear : Linear extended current (earlier ++ version :: later)) :
    ∀ next ∈ later, next.key = version.key → extended version.value next.value := by
  intro next member sameKey
  have ordered := (List.pairwise_append.mp linear.ordered).2.1
  exact (List.pairwise_cons.mp ordered).1 next member sameKey.symm

end PlatformArchitecture.Foundations
