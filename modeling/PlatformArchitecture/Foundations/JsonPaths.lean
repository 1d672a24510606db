import Mathlib.Data.List.Infix
import PlatformArchitecture.Foundations.Json

/-!
# JSON values by key path

A path is a list of object keys.  It leads into nested objects; every other
value is a leaf.  An object has distinct keys at every level, and writing a
property keeps it so.
-/

namespace PlatformArchitecture.Foundations

namespace Json

def isObject : Json → Bool
  | obj _ => true
  | _ => false

/-- What is seen at a path: an object, whose properties have longer paths, or a
leaf with its value. -/
inductive Shape where
  | object
  | leaf (value : Json)

def shape : Json → Shape
  | obj _ => .object
  | value => .leaf value

def valueAt : List String → Json → Option Json
  | [], value => some value
  | key :: rest, value => (value.property key).bind (valueAt rest)

def shapeAt (path : List String) (value : Json) : Option Shape :=
  (valueAt path value).map shape

def binds (path : List String) (value : Json) : Bool :=
  (valueAt path value).isSome

/-- A value decides a path if it binds it, or a leaf at one of its
prefixes. -/
def decides (path : List String) (value : Json) : Bool :=
  binds path value ||
    path.inits.any fun initial => (valueAt initial value).any fun found => !found.isObject

section Paths

variable {path rest : List String} {key : String} {value : Json} {fields : JsObject}

theorem property_eq_none (isLeaf : value.isObject = false) (key : String) :
    value.property key = none := by
  cases value with
  | obj fields => cases isLeaf
  | null | bool | num | str | arr => rfl

@[simp]
theorem shapeAt_nil : shapeAt [] value = some value.shape :=
  rfl

@[simp]
theorem shapeAt_cons_obj :
    shapeAt (key :: rest) (obj fields) = (fields.lookup key).bind (shapeAt rest) := by
  unfold shapeAt
  simp only [valueAt, property]
  cases fields.lookup key with
  | none => rfl
  | some found => rfl

theorem shapeAt_cons_leaf (isLeaf : value.isObject = false) :
    shapeAt (key :: rest) value = none := by
  unfold shapeAt
  simp only [valueAt, property_eq_none isLeaf key]
  rfl

@[simp]
theorem decides_nil : decides [] value = true :=
  rfl

theorem decides_leaf (isLeaf : value.isObject = false) : decides path value = true := by
  have atRoot : [] ∈ path.inits := (List.mem_inits _ _).mpr List.nil_prefix
  unfold decides
  rw [Bool.or_eq_true, List.any_eq_true]
  refine Or.inr ⟨[], atRoot, ?_⟩
  simp [valueAt, isLeaf]

/-- Below an object a path is decided by the property it leads through. -/
@[simp]
theorem decides_cons_obj :
    decides (key :: rest) (obj fields) = (fields.lookup key).any (decides rest) := by
  unfold decides binds
  simp only [valueAt, property, List.inits, List.any_cons, List.any_map, Option.any_some,
    isObject, Bool.not_true, Bool.false_or, Function.comp_def]
  cases fields.lookup key with
  | none => simp
  | some found => simp

/-- What a value does not decide, it does not bind. -/
theorem shapeAt_of_undecided (undecided : decides path value = false) :
    shapeAt path value = none := by
  unfold decides binds at undecided
  rw [Bool.or_eq_false_iff, Option.isSome_eq_false_iff, Option.isNone_iff_eq_none]
    at undecided
  unfold shapeAt
  rw [undecided.1]
  rfl

theorem binds_eq_isSome : binds path value = (shapeAt path value).isSome := by
  unfold binds shapeAt
  rw [Option.isSome_map]

end Paths

end Json

/-! ## Objects with distinct keys -/

namespace Json

mutual

/-- Distinct keys at every level.  The key `__proto__` is left out: assigning
to it does not write a property. -/
def WellFormed : Json → Prop
  | obj fields =>
      (fields.map Prod.fst).Nodup ∧ "__proto__" ∉ fields.map Prod.fst ∧ WellFormedFields fields
  | arr items => WellFormedItems items
  | null | bool _ | num _ | str _ => True

def WellFormedItems : List Json → Prop
  | [] => True
  | item :: rest => item.WellFormed ∧ WellFormedItems rest

def WellFormedFields : List (String × Json) → Prop
  | [] => True
  | (_, value) :: rest => value.WellFormed ∧ WellFormedFields rest

end

theorem wellFormedFields_iff {fields : JsObject} :
    WellFormedFields fields ↔ ∀ field ∈ fields, field.2.WellFormed := by
  induction fields with
  | nil => simp [WellFormedFields]
  | cons field rest inductionHypothesis =>
      simp [WellFormedFields, inductionHypothesis]

end Json

/-- A JSON object. -/
structure JsonObject where
  fields : JsObject
  wellFormed : (Json.obj fields).WellFormed

def JsonObject.toJson (object : JsonObject) : Json :=
  .obj object.fields

theorem mem_of_lookup {fields : JsObject} {key : String} {value : Json}
    (found : fields.lookup key = some value) : (key, value) ∈ fields := by
  induction fields with
  | nil => cases found
  | cons field rest inductionHypothesis =>
      rw [List.lookup_cons] at found
      split at found
      · next same =>
        cases found
        rw [beq_iff_eq.mp same]
        exact List.mem_cons_self
      · exact List.mem_cons_of_mem field (inductionHypothesis found)

theorem lookup_eq_none {fields : JsObject} {key : String}
    (absent : key ∉ fields.map Prod.fst) : fields.lookup key = none := by
  cases found : fields.lookup key with
  | none => rfl
  | some value => exact absurd (List.mem_map_of_mem (mem_of_lookup found)) absent

/-- `out[key] = value`. -/
def setProperty (out : JsObject) (key : String) (value : Json) : JsObject :=
  match out with
  | [] => [(key, value)]
  | (other, held) :: rest =>
      if other = key then (other, value) :: rest
      else (other, held) :: setProperty rest key value

section SetProperty

variable {out : JsObject} {key other : String} {value : Json}

theorem lookup_cons_of_ne {rest : JsObject} {held : Json} (different : other ≠ key) :
    List.lookup other ((key, held) :: rest) = rest.lookup other := by
  have test : (other == key) = false := beq_eq_false_iff_ne.mpr different
  rw [List.lookup_cons, test]

theorem lookup_setProperty :
    (setProperty out key value).lookup other =
      if other = key then some value else out.lookup other := by
  induction out with
  | nil =>
      by_cases same : other = key
      · simp [setProperty, same]
      · simp [setProperty, same, lookup_cons_of_ne same]
  | cons field rest inductionHypothesis =>
      obtain ⟨name, held⟩ := field
      unfold setProperty
      by_cases isKey : name = key
      · subst isKey
        by_cases same : other = name
        · simp [same]
        · simp [same, lookup_cons_of_ne same]
      · rw [if_neg isKey]
        by_cases isName : other = name
        · subst isName
          simp [isKey]
        · rw [lookup_cons_of_ne isName, lookup_cons_of_ne isName, inductionHypothesis]

theorem mem_setProperty {entry : String × Json} (member : entry ∈ setProperty out key value) :
    entry = (key, value) ∨ entry ∈ out := by
  induction out with
  | nil => exact Or.inl (List.mem_singleton.mp member)
  | cons field rest inductionHypothesis =>
      unfold setProperty at member
      split at member
      · next same =>
        rw [same] at member
        exact (List.mem_cons.mp member).imp_right (List.mem_cons_of_mem field)
      · cases List.mem_cons.mp member with
        | inl isFirst => exact Or.inr (isFirst ▸ List.mem_cons_self)
        | inr later => exact (inductionHypothesis later).imp_right (List.mem_cons_of_mem field)

/-- Writing a property adds no key but its own. -/
theorem mem_keys_setProperty (member : other ∈ (setProperty out key value).map Prod.fst) :
    other = key ∨ other ∈ out.map Prod.fst := by
  obtain ⟨entry, isEntry, isKey⟩ := List.mem_map.mp member
  cases mem_setProperty isEntry with
  | inl written => exact Or.inl (isKey ▸ written ▸ rfl)
  | inr held => exact Or.inr (isKey ▸ List.mem_map_of_mem held)

theorem nodup_setProperty (distinct : (out.map Prod.fst).Nodup) :
    ((setProperty out key value).map Prod.fst).Nodup := by
  induction out with
  | nil => simp [setProperty]
  | cons field rest inductionHypothesis =>
      obtain ⟨first, later⟩ := List.nodup_cons.mp distinct
      unfold setProperty
      split
      · exact distinct
      · next different =>
        refine List.nodup_cons.mpr ⟨?_, inductionHypothesis later⟩
        intro member
        exact (mem_keys_setProperty member).elim different first

theorem wellFormed_setProperty (object : (Json.obj out).WellFormed) (isName : key ≠ "__proto__")
    (isValue : value.WellFormed) : (Json.obj (setProperty out key value)).WellFormed := by
  obtain ⟨distinct, noProto, values⟩ := object
  refine ⟨nodup_setProperty distinct, ?_, ?_⟩
  · intro member
    exact (mem_keys_setProperty member).elim (fun same => isName same.symm) noProto
  · rw [Json.wellFormedFields_iff] at values ⊢
    intro entry member
    cases mem_setProperty member with
    | inl written =>
        rw [written]
        exact isValue
    | inr held => exact values entry held

end SetProperty

end PlatformArchitecture.Foundations
