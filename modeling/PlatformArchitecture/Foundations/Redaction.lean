import Mathlib.Data.List.Basic

/-!
# Redaction of nested values

Values made of lists and records over leaves of any kind, what it means for two
of them to differ below some of the record keys only, and the redaction that
puts one leaf in the place of whatever stands under such a key.
-/

namespace PlatformArchitecture.Foundations

universe u v

/-- A leaf, or a list or a record of values. -/
inductive Nested (Key : Type u) (Leaf : Type v) where
  | leaf (value : Leaf)
  | list (items : List (Nested Key Leaf))
  | record (fields : List (Key × Nested Key Leaf))

/-- One step of a path into a value. -/
inductive NestedStep (Key : Type u) where
  | index (position : Nat)
  | key (name : Key)

namespace Nested

variable {Key : Type u} {Leaf : Type v}

/-- `Position path whole part`: the path leads from the value to the part. -/
inductive Position :
    List (NestedStep Key) → Nested Key Leaf → Nested Key Leaf → Prop where
  | here (value : Nested Key Leaf) : Position [] value value
  | item {items : List (Nested Key Leaf)} {position : Nat} {item part : Nested Key Leaf}
      {path : List (NestedStep Key)} (found : items[position]? = some item)
      (rest : Position path item part) :
      Position (.index position :: path) (.list items) part
  | field {fields : List (Key × Nested Key Leaf)} {name : Key} {value part : Nested Key Leaf}
      {path : List (NestedStep Key)} (found : (name, value) ∈ fields)
      (rest : Position path value part) :
      Position (.key name :: path) (.record fields) part

section Redaction

variable (hidden : Key → Bool) (marker : Leaf)

mutual

/-- The value with the marker under every hidden key. -/
def redacted : Nested Key Leaf → Nested Key Leaf
  | leaf value => leaf value
  | list items => list (redactedItems items)
  | record fields => record (redactedFields fields)

def redactedItems : List (Nested Key Leaf) → List (Nested Key Leaf)
  | [] => []
  | item :: rest => redacted item :: redactedItems rest

def redactedFields : List (Key × Nested Key Leaf) → List (Key × Nested Key Leaf)
  | [] => []
  | (name, value) :: rest =>
      (name, if hidden name then leaf marker else redacted value) :: redactedFields rest

end

mutual

/-- Two values that differ below hidden keys only: the same keys in the same
order, lists of the same length and equal leaves everywhere else. -/
def SameOutside : Nested Key Leaf → Nested Key Leaf → Prop
  | leaf value, leaf other => value = other
  | list items, list others => SameItemsOutside items others
  | record fields, record others => SameFieldsOutside fields others
  | leaf _, list _ | leaf _, record _ | list _, leaf _ | list _, record _
  | record _, leaf _ | record _, list _ => False

def SameItemsOutside : List (Nested Key Leaf) → List (Nested Key Leaf) → Prop
  | [], [] => True
  | item :: rest, other :: others => SameOutside item other ∧ SameItemsOutside rest others
  | [], _ :: _ | _ :: _, [] => False

def SameFieldsOutside :
    List (Key × Nested Key Leaf) → List (Key × Nested Key Leaf) → Prop
  | [], [] => True
  | (name, value) :: rest, (otherName, other) :: others =>
      name = otherName ∧ (hidden name = false → SameOutside value other) ∧
        SameFieldsOutside rest others
  | [], _ :: _ | _ :: _, [] => False

end

end Redaction

variable {hidden : Key → Bool} {marker : Leaf}

/-! ## What stands under a hidden key -/

theorem mem_redactedFields {name : Key} {value : Nested Key Leaf}
    {fields : List (Key × Nested Key Leaf)}
    (member : (name, value) ∈ redactedFields hidden marker fields) :
    ∃ before, (name, before) ∈ fields ∧
      value = if hidden name then leaf marker else redacted hidden marker before := by
  induction fields with
  | nil =>
      rw [redactedFields] at member
      exact absurd member List.not_mem_nil
  | cons field rest inductionHypothesis =>
      obtain ⟨first, before⟩ := field
      rw [redactedFields] at member
      rcases List.mem_cons.mp member with same | later
      · obtain ⟨rfl, valueEq⟩ := Prod.mk.injEq _ _ _ _ ▸ same
        exact ⟨before, List.mem_cons_self, valueEq⟩
      · obtain ⟨found, member, valueEq⟩ := inductionHypothesis later
        exact ⟨found, List.mem_cons_of_mem _ member, valueEq⟩

theorem getElem?_redactedItems (items : List (Nested Key Leaf)) (position : Nat) :
    (redactedItems hidden marker items)[position]? =
      items[position]?.map (redacted hidden marker) := by
  induction items generalizing position with
  | nil =>
      rw [redactedItems]
      simp
  | cons item rest inductionHypothesis =>
      rw [redactedItems]
      cases position with
      | zero => simp
      | succ position =>
          rw [List.getElem?_cons_succ, List.getElem?_cons_succ]
          exact inductionHypothesis position

/-- A leaf has no parts but itself. -/
theorem position_leaf {path : List (NestedStep Key)} {value : Leaf} {part : Nested Key Leaf}
    (position : Position path (leaf value) part) : part = leaf value := by
  cases position with
  | here => rfl

/-- A path through a hidden key leads to the marker. -/
theorem eq_marker_of_position {path : List (NestedStep Key)} {name : Key}
    (through : .key name ∈ path) (isHidden : hidden name = true)
    {value part : Nested Key Leaf} :
    Position path (redacted hidden marker value) part → part = leaf marker := by
  intro position
  induction path generalizing value with
  | nil => exact absurd through List.not_mem_nil
  | cons step rest inductionHypothesis =>
      cases value with
      | leaf value =>
          rw [redacted] at position
          cases position
      | list items =>
          rw [redacted] at position
          cases position with
          | item found inner =>
              rw [getElem?_redactedItems, Option.map_eq_some_iff] at found
              obtain ⟨before, _found, rfl⟩ := found
              have inRest : .key name ∈ rest := by
                simpa using through
              exact inductionHypothesis inRest inner
      | record fields =>
          rw [redacted] at position
          cases position with
          | field found inner =>
              rename_i fieldName fieldValue
              obtain ⟨before, _member, valueEq⟩ := mem_redactedFields found
              by_cases fieldHidden : hidden fieldName = true
              · rw [if_pos fieldHidden] at valueEq
                exact position_leaf (valueEq ▸ inner)
              · rw [if_neg fieldHidden] at valueEq
                have inRest : .key name ∈ rest := by
                  rcases List.mem_cons.mp through with same | later
                  · rw [NestedStep.key.inj same] at isHidden
                    exact absurd isHidden fieldHidden
                  · exact later
                exact inductionHypothesis inRest (valueEq ▸ inner)

/-! ## What redaction keeps -/

mutual

/-- Redaction changes a value below hidden keys only. -/
theorem sameOutside_redacted :
    ∀ value : Nested Key Leaf, SameOutside hidden value (redacted hidden marker value)
  | leaf _value => by
      rw [redacted, SameOutside]
  | list items => by
      rw [redacted, SameOutside]
      exact sameItemsOutside_redactedItems items
  | record fields => by
      rw [redacted, SameOutside]
      exact sameFieldsOutside_redactedFields fields

theorem sameItemsOutside_redactedItems :
    ∀ items : List (Nested Key Leaf),
      SameItemsOutside hidden items (redactedItems hidden marker items)
  | [] => by
      rw [redactedItems, SameItemsOutside]
      trivial
  | item :: rest => by
      rw [redactedItems, SameItemsOutside]
      exact ⟨sameOutside_redacted item, sameItemsOutside_redactedItems rest⟩

theorem sameFieldsOutside_redactedFields :
    ∀ fields : List (Key × Nested Key Leaf),
      SameFieldsOutside hidden fields (redactedFields hidden marker fields)
  | [] => by
      rw [redactedFields, SameFieldsOutside]
      trivial
  | (name, value) :: rest => by
      rw [redactedFields, SameFieldsOutside]
      refine ⟨rfl, ?_, sameFieldsOutside_redactedFields rest⟩
      intro shown
      rw [shown, if_neg Bool.false_ne_true]
      exact sameOutside_redacted value

end

mutual

/-- Two values are redacted to the same one exactly when they differ below
hidden keys only. -/
theorem redacted_eq_iff : ∀ value other : Nested Key Leaf,
    redacted hidden marker value = redacted hidden marker other ↔ SameOutside hidden value other
  | leaf _, leaf _ => by
      simp [redacted, SameOutside]
  | list items, list others => by
      rw [redacted, redacted, SameOutside, list.injEq]
      exact redactedItems_eq_iff items others
  | record fields, record others => by
      rw [redacted, redacted, SameOutside, record.injEq]
      exact redactedFields_eq_iff fields others
  | leaf _, list _ | leaf _, record _ | list _, leaf _ | list _, record _
  | record _, leaf _ | record _, list _ => by
      simp [redacted, SameOutside]

theorem redactedItems_eq_iff : ∀ items others : List (Nested Key Leaf),
    redactedItems hidden marker items = redactedItems hidden marker others ↔
      SameItemsOutside hidden items others
  | [], [] => by
      simp [SameItemsOutside]
  | item :: rest, other :: others => by
      rw [redactedItems, redactedItems, SameItemsOutside, List.cons.injEq,
        redacted_eq_iff item other, redactedItems_eq_iff rest others]
  | [], _ :: _ | _ :: _, [] => by
      simp [redactedItems, SameItemsOutside]

theorem redactedFields_eq_iff : ∀ fields others : List (Key × Nested Key Leaf),
    redactedFields hidden marker fields = redactedFields hidden marker others ↔
      SameFieldsOutside hidden fields others
  | [], [] => by
      simp [SameFieldsOutside]
  | (name, value) :: rest, (otherName, other) :: others => by
      rw [redactedFields, redactedFields, SameFieldsOutside, List.cons.injEq, Prod.mk.injEq,
        redactedFields_eq_iff rest others, and_assoc]
      refine and_congr_right ?_
      rintro rfl
      refine and_congr_left' ?_
      cases isHidden : hidden name with
      | true => simp
      | false => simpa using redacted_eq_iff value other
  | [], _ :: _ | _ :: _, [] => by
      simp [redactedFields, SameFieldsOutside]

end

/-- A second redaction changes nothing. -/
theorem redacted_redacted (value : Nested Key Leaf) :
    redacted hidden marker (redacted hidden marker value) = redacted hidden marker value :=
  ((redacted_eq_iff value _).mpr (sameOutside_redacted value)).symm

end Nested

end PlatformArchitecture.Foundations
