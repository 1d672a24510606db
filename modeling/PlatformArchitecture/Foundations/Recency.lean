import Mathlib.Data.Finset.Card

/-!
# Rows in the order of their last use

A map that remembers the order of insertion keeps its rows by recency if a row
is deleted and inserted again whenever it is used.  If every row has behind it
only keys that were used since its own last use, then a row that is dropped for
lack of room was followed by as many of these as there was room for.
-/

namespace PlatformArchitecture.Foundations.Recency

universe u v

variable {Row : Type u} {Key : Type v} [DecidableEq Key] (key : Row → Key)

/-- The rows but for that of one key. -/
def without (wanted : Key) (rows : List Row) : List Row :=
  rows.filter fun row => key row ≠ wanted

/-- The row is deleted, where it is there, and inserted at the end. -/
def usedLast (row : Row) (rows : List Row) : List Row :=
  without key (key row) rows ++ [row]

/-- The oldest rows are deleted while there are more than the limit. -/
def keepLatest (limit : Nat) : List Row → List Row
  | [] => []
  | oldest :: rest => if limit < rest.length + 1 then keepLatest limit rest else oldest :: rest

/-- Behind every row stand only keys that were used since its last use. -/
def InOrder (usedSince : Key → Finset Key) (rows : List Row) : Prop :=
  rows.Pairwise fun older newer => key newer ∈ usedSince (key older)

variable {key}

theorem mem_without {wanted : Key} {rows : List Row} {row : Row} :
    row ∈ without key wanted rows ↔ row ∈ rows ∧ key row ≠ wanted := by
  simp [without]

theorem without_eq_self {wanted : Key} {rows : List Row}
    (missing : ∀ row ∈ rows, key row ≠ wanted) : without key wanted rows = rows := by
  refine List.filter_eq_self.mpr ?_
  intro row member
  simpa using missing row member

theorem mem_usedLast {row other : Row} {rows : List Row} :
    other ∈ usedLast key row rows ↔ (other ∈ rows ∧ key other ≠ key row) ∨ other = row := by
  rw [usedLast, List.mem_append, mem_without, List.mem_singleton]

theorem keepLatest_sublist (limit : Nat) (rows : List Row) :
    (keepLatest limit rows).Sublist rows := by
  induction rows with
  | nil => exact List.Sublist.refl []
  | cons oldest rest inductionHypothesis =>
      unfold keepLatest
      split
      · exact inductionHypothesis.cons oldest
      · exact List.Sublist.refl _

theorem length_keepLatest_le (limit : Nat) (rows : List Row) :
    (keepLatest limit rows).length ≤ limit := by
  induction rows with
  | nil => exact Nat.zero_le limit
  | cons oldest rest inductionHypothesis =>
      unfold keepLatest
      split
      · exact inductionHypothesis
      · rw [List.length_cons]
        omega

theorem keepLatest_eq_self {limit : Nat} {rows : List Row} (within : rows.length ≤ limit) :
    keepLatest limit rows = rows := by
  cases rows with
  | nil => rfl
  | cons oldest rest =>
      rw [List.length_cons] at within
      rw [keepLatest, if_neg (Nat.not_lt.mpr within)]

/-- A row of the key is used again: there are as many rows as before. -/
theorem length_usedLast_le {row present : Row} {rows : List Row} (member : present ∈ rows)
    (sameKey : key present = key row) : (usedLast key row rows).length ≤ rows.length := by
  have fewer : (without key (key row) rows).length < rows.length := by
    refine List.length_filter_lt_length_iff_exists.mpr ⟨present, member, ?_⟩
    simp [sameKey]
  rw [usedLast, List.length_append, List.length_singleton]
  omega

theorem nodup_without {wanted : Key} {rows : List Row} (distinct : (rows.map key).Nodup) :
    ((without key wanted rows).map key).Nodup :=
  distinct.sublist (List.filter_sublist.map key)

theorem nodup_usedLast {row : Row} {rows : List Row} (distinct : (rows.map key).Nodup) :
    ((usedLast key row rows).map key).Nodup := by
  rw [usedLast, List.map_append, List.map_singleton, List.nodup_append]
  refine ⟨nodup_without distinct, List.nodup_singleton _, ?_⟩
  intro stored isStored added isAdded same
  obtain ⟨other, member, rfl⟩ := List.mem_map.mp isStored
  rw [List.mem_singleton.mp isAdded] at same
  exact (mem_without.mp member).2 same

/-- After a use its key has been used since the last use of every other. -/
theorem InOrder.usedLast {usedSince usedSinceThen : Key → Finset Key} {row : Row}
    {rows : List Row} (inOrder : InOrder key usedSince rows)
    (grows : ∀ other, other ≠ key row → usedSince other ⊆ usedSinceThen other)
    (used : ∀ other, other ≠ key row → key row ∈ usedSinceThen other) :
    InOrder key usedSinceThen (usedLast key row rows) := by
  refine List.pairwise_append.mpr ⟨?_, List.pairwise_singleton _ _, ?_⟩
  · have kept : InOrder key usedSince (without key (key row) rows) :=
      inOrder.sublist List.filter_sublist
    refine List.Pairwise.imp_of_mem ?_ kept
    intro older newer isOlder _isNewer isUsed
    exact grows (key older) (mem_without.mp isOlder).2 isUsed
  · intro older isOlder newer isNewer
    rw [List.mem_singleton.mp isNewer]
    exact used (key older) (mem_without.mp isOlder).2

/-- A row is dropped only if as many others as there is room for were used
since its last use. -/
theorem limit_le_card_of_dropped {usedSince : Key → Finset Key} {rows : List Row}
    (inOrder : InOrder key usedSince rows) (distinct : (rows.map key).Nodup) {limit : Nat}
    {row : Row} (member : row ∈ rows) (dropped : row ∉ keepLatest limit rows) :
    limit ≤ (usedSince (key row)).card := by
  induction rows with
  | nil => exact absurd member List.not_mem_nil
  | cons oldest rest inductionHypothesis =>
      obtain ⟨behind, restInOrder⟩ := List.pairwise_cons.mp inOrder
      rw [List.map_cons, List.nodup_cons] at distinct
      unfold keepLatest at dropped
      split at dropped
      · next tooMany =>
        rcases List.mem_cons.mp member with rfl | inRest
        · have allUsed : (rest.map key).toFinset ⊆ usedSince (key row) := by
            intro other isOther
            obtain ⟨newer, isNewer, rfl⟩ := List.mem_map.mp (List.mem_toFinset.mp isOther)
            exact behind newer isNewer
          have counted := Finset.card_le_card allUsed
          rw [List.toFinset_card_of_nodup distinct.2, List.length_map] at counted
          omega
        · exact inductionHypothesis restInOrder distinct.2 inRest dropped
      · exact absurd member dropped

theorem mem_keepLatest_of_card_lt {usedSince : Key → Finset Key} {rows : List Row}
    (inOrder : InOrder key usedSince rows) (distinct : (rows.map key).Nodup) {limit : Nat}
    {row : Row} (member : row ∈ rows) (room : (usedSince (key row)).card < limit) :
    row ∈ keepLatest limit rows := by
  by_contra dropped
  have full := limit_le_card_of_dropped inOrder distinct member dropped
  omega

end PlatformArchitecture.Foundations.Recency
