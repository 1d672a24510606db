import PlatformArchitecture.Foundations.Json

/-!
# Facts about every field of a value

What holds of the name and the value of every property at any depth of a JSON
value, and what writing and sorting the value keep of it.
-/

namespace PlatformArchitecture.Foundations

namespace Json

mutual

/-- A fact about every property of every object in a value. -/
def EveryField (fact : String → Json → Prop) : Json → Prop
  | arr items => EveryFieldOfItems fact items
  | obj fields => EveryFieldOf fact fields
  | null | bool _ | num _ | str _ => True

def EveryFieldOfItems (fact : String → Json → Prop) : List Json → Prop
  | [] => True
  | item :: rest => EveryField fact item ∧ EveryFieldOfItems fact rest

def EveryFieldOf (fact : String → Json → Prop) : List (String × Json) → Prop
  | [] => True
  | (key, value) :: rest => fact key value ∧ EveryField fact value ∧ EveryFieldOf fact rest

end

variable {fact : String → Json → Prop} {named : String → Prop}

theorem everyFieldOf_iff {fields : List (String × Json)} :
    EveryFieldOf fact fields ↔
      ∀ field ∈ fields, fact field.1 field.2 ∧ EveryField fact field.2 := by
  induction fields with
  | nil => simp [EveryFieldOf]
  | cons field rest inductionHypothesis =>
      obtain ⟨key, value⟩ := field
      rw [EveryFieldOf, List.forall_mem_cons, ← inductionHypothesis, and_assoc]

/-- The order of properties does not matter. -/
theorem everyFieldOf_perm {fields others : List (String × Json)} (same : fields.Perm others) :
    EveryFieldOf fact fields ↔ EveryFieldOf fact others := by
  rw [everyFieldOf_iff, everyFieldOf_iff]
  constructor
  · intro every field member
    exact every field (same.mem_iff.mpr member)
  · intro every field member
    exact every field (same.mem_iff.mp member)

mutual

/-- A fact that survives writing a value holds of the fields that were
written. -/
theorem EveryField.reparsed (closed : ∀ key value, fact key value → fact key value.reparsed) :
    ∀ value : Json, EveryField fact value → EveryField fact value.reparsed
  | null, every | bool _, every | str _, every | num (.finite _), every => every
  | num (.infinite _), _every => trivial
  | arr items, every => EveryFieldOfItems.reparsed closed items every
  | obj fields, every => EveryFieldOf.reparsed closed fields every

theorem EveryFieldOfItems.reparsed
    (closed : ∀ key value, fact key value → fact key value.reparsed) : ∀ items : List Json,
    EveryFieldOfItems fact items → EveryFieldOfItems fact (reparsedItems items)
  | [], _every => trivial
  | item :: rest, every =>
      ⟨EveryField.reparsed closed item every.1, EveryFieldOfItems.reparsed closed rest every.2⟩

theorem EveryFieldOf.reparsed
    (closed : ∀ key value, fact key value → fact key value.reparsed) :
    ∀ fields : List (String × Json), EveryFieldOf fact fields →
      EveryFieldOf fact (reparsedFields fields)
  | [], _every => trivial
  | (key, value) :: rest, every =>
      ⟨closed key value every.1, EveryField.reparsed closed value every.2.1,
        EveryFieldOf.reparsed closed rest every.2.2⟩

end

mutual

/-- Writing a value keeps its names. -/
theorem everyField_reparsed_iff : ∀ value : Json,
    EveryField (fun key _ => named key) value.reparsed ↔ EveryField (fun key _ => named key) value
  | null | bool _ | str _ | num (.finite _) => Iff.rfl
  | num (.infinite _) => Iff.rfl
  | arr items => everyFieldOfItems_reparsed_iff items
  | obj fields => everyFieldOf_reparsed_iff fields

theorem everyFieldOfItems_reparsed_iff : ∀ items : List Json,
    EveryFieldOfItems (fun key _ => named key) (reparsedItems items) ↔
      EveryFieldOfItems (fun key _ => named key) items
  | [] => Iff.rfl
  | item :: rest => and_congr (everyField_reparsed_iff item) (everyFieldOfItems_reparsed_iff rest)

theorem everyFieldOf_reparsed_iff : ∀ fields : List (String × Json),
    EveryFieldOf (fun key _ => named key) (reparsedFields fields) ↔
      EveryFieldOf (fun key _ => named key) fields
  | [] => Iff.rfl
  | (_key, value) :: rest =>
      and_congr Iff.rfl (and_congr (everyField_reparsed_iff value) (everyFieldOf_reparsed_iff rest))

end

mutual

/-- Sorting a value keeps its names. -/
theorem everyField_sorted_iff : ∀ value : Json,
    EveryField (fun key _ => named key) value.sorted ↔ EveryField (fun key _ => named key) value
  | null | bool _ | str _ | num _ => Iff.rfl
  | arr items => everyFieldOfItems_sorted_iff items
  | obj fields =>
      (everyFieldOf_perm (List.perm_insertionSort _ _)).trans (everyFieldOf_sorted_iff fields)

theorem everyFieldOfItems_sorted_iff : ∀ items : List Json,
    EveryFieldOfItems (fun key _ => named key) (sortedItems items) ↔
      EveryFieldOfItems (fun key _ => named key) items
  | [] => Iff.rfl
  | item :: rest => and_congr (everyField_sorted_iff item) (everyFieldOfItems_sorted_iff rest)

theorem everyFieldOf_sorted_iff : ∀ fields : List (String × Json),
    EveryFieldOf (fun key _ => named key) (sortedFields fields) ↔
      EveryFieldOf (fun key _ => named key) fields
  | [] => Iff.rfl
  | (_key, value) :: rest =>
      and_congr Iff.rfl (and_congr (everyField_sorted_iff value) (everyFieldOf_sorted_iff rest))

end

/-- A value has the names of its document. -/
theorem everyField_document_iff (value : Json) :
    EveryField (fun key _ => named key) value.document ↔
      EveryField (fun key _ => named key) value :=
  (everyField_sorted_iff value.reparsed).trans (everyField_reparsed_iff value)

end Json

end PlatformArchitecture.Foundations
