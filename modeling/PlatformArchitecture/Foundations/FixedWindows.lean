import Mathlib.Data.List.Basic

/-!
# Windows of one length

Entries that were counted in windows, each known by its end.  A window begins
at its first entry and the next one never before it has ended, so what falls
into an interval of the same length falls into two windows at most.
-/

namespace PlatformArchitecture.Foundations

section Windows

variable {Entry : Type} (moment finish : Entry → Nat) (length : Nat)

/-- Every entry lies in its window, and different windows do not overlap. -/
structure InWindows (entries : List Entry) : Prop where
  within : ∀ entry ∈ entries,
    moment entry ≤ finish entry ∧ finish entry ≤ moment entry + length
  apart : ∀ entry ∈ entries, ∀ other ∈ entries,
    finish entry < finish other → finish entry + length ≤ finish other

/-- The entry falls into the interval of that length. -/
def Inside (start : Nat) (entry : Entry) : Prop :=
  start ≤ moment entry ∧ moment entry < start + length

instance (start : Nat) (entry : Entry) : Decidable (Inside moment length start entry) :=
  inferInstanceAs (Decidable (_ ∧ _))

end Windows

theorem countP_le_add {Entry : Type} {counted left right : Entry → Bool} {entries : List Entry}
    (covered : ∀ entry ∈ entries, counted entry = true →
      left entry = true ∨ right entry = true) :
    entries.countP counted ≤ entries.countP left + entries.countP right := by
  induction entries with
  | nil => exact Nat.zero_le _
  | cons entry rest inductionHypothesis =>
      have ofRest := inductionHypothesis fun other member =>
        covered other (List.mem_cons_of_mem entry member)
      simp only [List.countP_cons]
      by_cases isCounted : counted entry = true
      · rcases covered entry List.mem_cons_self isCounted with isLeft | isRight
        · simp only [isCounted, isLeft, if_true]
          omega
        · simp only [isCounted, isRight, if_true]
          omega
      · rw [if_neg isCounted]
        omega

namespace InWindows

variable {Entry : Type} {moment finish : Entry → Nat} {length : Nat} {entries : List Entry}

theorem nil : InWindows moment finish length [] where
  within _ member := absurd member List.not_mem_nil
  apart _ member := absurd member List.not_mem_nil

/-- The next entry falls into the last window or opens one. -/
theorem cons {entry : Entry} (inWindows : InWindows moment finish length entries)
    (own : moment entry ≤ finish entry ∧ finish entry ≤ moment entry + length)
    (last : ∀ other ∈ entries, finish other = finish entry ∨
      finish other + length ≤ finish entry) :
    InWindows moment finish length (entry :: entries) where
  within := by
    intro found member
    rcases List.mem_cons.mp member with isNew | before
    · rw [isNew]
      exact own
    · exact inWindows.within found before
  apart := by
    intro first firstMember second secondMember earlier
    rcases List.mem_cons.mp firstMember with isFirst | firstBefore
    · rcases List.mem_cons.mp secondMember with isSecond | secondBefore
      · rw [isFirst, isSecond] at earlier
        omega
      · rw [isFirst] at earlier
        have order := last second secondBefore
        omega
    · rcases List.mem_cons.mp secondMember with isSecond | secondBefore
      · rw [isSecond] at earlier ⊢
        have order := last first firstBefore
        omega
      · exact inWindows.apart first firstBefore second secondBefore earlier

theorem filter (inWindows : InWindows moment finish length entries) (keep : Entry → Bool) :
    InWindows moment finish length (entries.filter keep) where
  within entry member := inWindows.within entry (List.mem_of_mem_filter member)
  apart entry member other otherMember :=
    inWindows.apart entry (List.mem_of_mem_filter member) other
      (List.mem_of_mem_filter otherMember)

/-- Of three entries within an interval two share their window. -/
theorem shared {start : Nat} (inWindows : InWindows moment finish length entries)
    {first second third : Entry} (firstMember : first ∈ entries)
    (secondMember : second ∈ entries) (thirdMember : third ∈ entries)
    (firstInside : Inside moment length start first)
    (secondInside : Inside moment length start second)
    (thirdInside : Inside moment length start third)
    (different : finish first ≠ finish second) :
    finish third = finish first ∨ finish third = finish second := by
  obtain ⟨firstFrom, firstUntil⟩ := firstInside
  obtain ⟨secondFrom, secondUntil⟩ := secondInside
  obtain ⟨thirdFrom, thirdUntil⟩ := thirdInside
  have firstWithin := inWindows.within first firstMember
  have secondWithin := inWindows.within second secondMember
  have thirdWithin := inWindows.within third thirdMember
  have firstSecond := inWindows.apart first firstMember second secondMember
  have secondFirst := inWindows.apart second secondMember first firstMember
  have firstThird := inWindows.apart first firstMember third thirdMember
  have thirdFirst := inWindows.apart third thirdMember first firstMember
  have secondThird := inWindows.apart second secondMember third thirdMember
  have thirdSecond := inWindows.apart third thirdMember second secondMember
  omega

/-- What falls into an interval of the length of the windows falls into two of
them. -/
theorem countP_inside_le (inWindows : InWindows moment finish length entries) (start : Nat) :
    ∃ first second,
      entries.countP (fun entry => decide (Inside moment length start entry)) ≤
        entries.countP (fun entry => decide (finish entry = first)) +
          entries.countP (fun entry => decide (finish entry = second)) := by
  by_cases apart : ∃ first ∈ entries, ∃ second ∈ entries, Inside moment length start first ∧
      Inside moment length start second ∧ finish first ≠ finish second
  · obtain ⟨first, isFirst, second, isSecond, firstInside, secondInside, different⟩ := apart
    refine ⟨finish first, finish second, countP_le_add ?_⟩
    intro third isThird thirdInside
    have shares := inWindows.shared isFirst isSecond isThird firstInside secondInside
      (of_decide_eq_true thirdInside) different
    simpa using shares
  · by_cases empty : ∀ entry ∈ entries, ¬ Inside moment length start entry
    · refine ⟨0, 0, countP_le_add ?_⟩
      intro entry member isInside
      exact absurd (of_decide_eq_true isInside) (empty entry member)
    · simp only [not_forall, not_not] at empty
      obtain ⟨first, isFirst, firstInside⟩ := empty
      refine ⟨finish first, finish first, countP_le_add ?_⟩
      intro entry member isInside
      left
      apply decide_eq_true
      by_contra different
      exact apart ⟨entry, member, first, isFirst, of_decide_eq_true isInside, firstInside,
        different⟩

end InWindows

end PlatformArchitecture.Foundations
