import Mathlib.Logic.Basic

/-!
# Checks in sequence

A validation runs its checks in order and stops at the first that throws.  A
sequence of checks passes when each of them passes.
-/

namespace PlatformArchitecture.Foundations

universe u v w

variable {Error : Type u} {Result : Type v} {Other : Type v}

/-- `if (condition) throw error`. -/
def throwIf (condition : Prop) [Decidable condition] (error : Error) :
    Except Error PUnit :=
  if condition then .error error else .ok ⟨⟩

@[simp]
theorem throwIf_eq_ok {condition : Prop} [Decidable condition] {error : Error}
    {passed : PUnit} :
    throwIf condition error = .ok passed ↔ ¬ condition := by
  unfold throwIf
  by_cases holds : condition
  · simp [holds]
  · simp [holds]

theorem throwIf_of_not {condition : Prop} [Decidable condition] {error : Error}
    (passes : ¬ condition) : throwIf condition error = .ok ⟨⟩ :=
  throwIf_eq_ok.mpr passes

theorem throwIf_of_pos {condition : Prop} [Decidable condition] {error : Error}
    (fails : condition) : throwIf condition error = .error error :=
  if_pos fails

@[simp]
theorem ok_bind (result : Result) (rest : Result → Except Error Other) :
    (Except.ok result >>= rest) = rest result :=
  rfl

@[simp]
theorem error_bind (error : Error) (rest : Result → Except Error Other) :
    ((.error error : Except Error Result) >>= rest) = .error error :=
  rfl

/-- A sequence passes when its first part passes and then the rest. -/
theorem bind_eq_ok {first : Except Error Result} {rest : Result → Except Error Other}
    {final : Other} :
    (first >>= rest) = .ok final ↔
      ∃ result, first = .ok result ∧ rest result = .ok final := by
  cases first with
  | ok result => simp
  | error error => simp

/-- The checks of a loop pass when each of them passes. -/
theorem forM_eq_ok {Item : Type w} {check : Item → Except Error PUnit} {items : List Item} :
    items.forM check = .ok ⟨⟩ ↔ ∀ item ∈ items, check item = .ok ⟨⟩ := by
  induction items with
  | nil => simp [List.forM_nil, pure, Except.pure]
  | cons item rest inductionHypothesis =>
      have unfolded : (item :: rest).forM check = (check item >>= fun _ => rest.forM check) := rfl
      rw [unfolded, bind_eq_ok, inductionHypothesis, List.forall_mem_cons]
      constructor
      · rintro ⟨_passed, passes, others⟩
        exact ⟨passes, others⟩
      · rintro ⟨passes, others⟩
        exact ⟨⟨⟩, passes, others⟩

theorem map_eq_ok {made : Result → Other} {outcome : Except Error Result} {value : Other} :
    outcome.map made = .ok value ↔ ∃ given, outcome = .ok given ∧ made given = value := by
  cases outcome with
  | error error =>
      constructor
      · intro impossible
        cases impossible
      · rintro ⟨given, impossible, _⟩
        cases impossible
  | ok given =>
      constructor
      · intro mapped
        exact ⟨given, rfl, Except.ok.inj mapped⟩
      · rintro ⟨same, isGiven, rfl⟩
        cases isGiven
        rfl

end PlatformArchitecture.Foundations
