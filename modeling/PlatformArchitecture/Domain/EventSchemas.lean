import PlatformArchitecture.Foundations.Checks
import PlatformArchitecture.Foundations.JsonSchemas
import Mathlib.Data.List.Perm.Basic

/-!
# Event schemas

`assertBackwardCompatibleEventSchema` compares two versions of an event's
schema: their required fields, their properties and the types that these
declare.  It looks at one level, while an event carries its payload in a
nested object.
-/

namespace PlatformArchitecture.Domain

open PlatformArchitecture.Foundations

/-! ## The check -/

/-- A boolean has the shape `{}`. -/
def objectShape : JsonSchema → JsonSchema
  | .boolean _ => .unconstrained
  | schema => schema

/-- A list of names is sorted and joined. -/
def typeName : Option TypeKeyword → Option String
  | some (.one name) => some name.text
  | some (.several names) =>
      some ("|".intercalate ((names.map TypeName.text).insertionSort fun left right =>
        left ≤ right))
  | none => none

/-- `properties[field]` where it counts as true.  What is inherited has no
`type`. -/
def propertySchema (schema : JsonSchema) (field : String) : Option JsonSchema :=
  if field ∈ schema.propertyNames then
    match schema.schemaAt field with
    | .boolean false => none
    | declared => some declared
  else if field ∈ inheritedProperties then some (.boolean true)
  else none

/-- An empty name counts as false. -/
def checkType (field : String) (oldType newType : Option String) : Except String Unit :=
  match oldType, newType with
  | some oldName, some newName =>
      throwIf (oldName ≠ "" ∧ newName ≠ "" ∧ oldName ≠ newName)
        ("EVENT_SCHEMA_TYPE_CHANGED:" ++ field ++ ":" ++ oldName ++ "->" ++ newName)
  | _, _ => .ok ()

def checkProperty (prev curr : JsonSchema) (field : String) : Except String Unit :=
  match propertySchema curr field with
  | none => .error ("EVENT_SCHEMA_REMOVED_FIELD:" ++ field)
  | some newSchema =>
      checkType field (typeName (objectShape (prev.schemaAt field)).type)
        (typeName (objectShape newSchema).type)

def assertBackwardCompatibleEventSchema (previous next : JsonSchema) : Except String Unit := do
  let prev := objectShape previous
  let curr := objectShape next
  throwIf (prev.type ≠ some (.one .object) ∨ curr.type ≠ some (.one .object))
    "EVENT_SCHEMA_OBJECT_REQUIRED"
  curr.requiredNames.forM fun field =>
    throwIf (field ∉ prev.requiredNames) ("EVENT_SCHEMA_NEW_REQUIRED_FIELD:" ++ field)
  prev.propertyNames.forM (checkProperty prev curr)

/-! ## What is claimed of it -/

/-- Every event that the previous schema describes is valid for the next. -/
def EventsStayValid (previous next : JsonSchema) : Prop :=
  ∀ event, previous.Describes event → next.validates event = true

/-- Unless the previous schema describes no object, every property that can be
there and is still declared is kept at every level below. -/
def PropertiesKept (previous next : JsonSchema) : Prop :=
  previous.admitsObject = true →
    ∀ field ∈ previous.propertyNames, (previous.schemaAt field).satisfiable = true →
      field ∈ next.propertyNames → (previous.schemaAt field).KeptBy (next.schemaAt field)

/-! ## What the check passes -/

section Check

variable {previous next : JsonSchema}

/-- An accepted pair is of object schemas, and the next requires no more. -/
theorem accepted_level (accepted : assertBackwardCompatibleEventSchema previous next = .ok ()) :
    previous.type = some (.one .object) ∧ next.type = some (.one .object) ∧
      next.requiredNames ⊆ previous.requiredNames ∧
        ∀ field ∈ previous.propertyNames, checkProperty previous next field = .ok () := by
  obtain ⟨_typed, isObject, others⟩ := bind_eq_ok.mp accepted
  obtain ⟨_required, required, properties⟩ := bind_eq_ok.mp others
  rw [throwIf_eq_ok, not_or, not_not, not_not] at isObject
  cases previous with
  | boolean value => cases isObject.1
  | object type requiredFields declared schemaOf =>
      cases next with
      | boolean value => cases isObject.2
      | object nextType nextRequired nextDeclared nextSchemaOf =>
          refine ⟨isObject.1, isObject.2, ?_, forM_eq_ok.mp properties⟩
          intro field isRequired
          have passes := forM_eq_ok.mp required field isRequired
          exact not_not.mp (throwIf_eq_ok.mp passes)

theorem allows_iff_of_object {schema : JsonSchema} {kind : JsonKind}
    (isObject : schema.type = some (.one .object)) :
    schema.allows kind = true ↔ kind = .object := by
  rw [JsonSchema.allows_of_type isObject]
  exact TypeKeyword.allows_one_object kind

/-- For an accepted pair only the properties are left to be compared. -/
theorem keptBy_iff_propertiesKept
    (accepted : assertBackwardCompatibleEventSchema previous next = .ok ()) :
    previous.KeptBy next ↔ PropertiesKept previous next := by
  obtain ⟨isObject, isObjectNext, required, -⟩ := accepted_level accepted
  rw [JsonSchema.keptBy_iff_level]
  constructor
  · rintro ⟨-, objects⟩ admits
    exact (objects admits).2.2
  · intro kept
    constructor
    · intro kind isScalar isAllowed
      exact absurd ((allows_iff_of_object isObject).mp isAllowed) isScalar
    · intro admits
      exact ⟨(allows_iff_of_object isObjectNext).mpr rfl, required, kept admits⟩

/-- Every event of an accepted pair stays valid just when the properties are
kept at every level below. -/
theorem eventsStayValid_iff_propertiesKept
    (accepted : assertBackwardCompatibleEventSchema previous next = .ok ()) :
    EventsStayValid previous next ↔ PropertiesKept previous next := by
  rw [← keptBy_iff_propertiesKept accepted]
  exact JsonSchema.keptBy_iff_validates.symm

end Check

/-! ## What the compared types ensure -/

section Types

variable {previous next : JsonSchema}

/-- The names of a keyword in the order in which they are joined. -/
def sortedNames (keyword : TypeKeyword) : List String :=
  (keyword.names.map TypeName.text).insertionSort fun left right => left ≤ right

theorem typeName_eq_join (keyword : TypeKeyword) :
    typeName (some keyword) = some ("|".intercalate (sortedNames keyword)) := by
  cases keyword with
  | one name => simp [typeName, sortedNames, TypeKeyword.names]
  | several names => rfl

theorem sortedNames_perm (keyword : TypeKeyword) :
    (sortedNames keyword).Perm (keyword.names.map TypeName.text) :=
  List.perm_insertionSort _ _

theorem noBar_of_sortedNames {keyword : TypeKeyword} :
    ∀ text ∈ sortedNames keyword, '|' ∉ text.toList := by
  intro text member
  obtain ⟨name, -, rfl⟩ := List.mem_map.mp ((sortedNames_perm keyword).mem_iff.mp member)
  cases name <;> decide +kernel

/-- Texts without a bar can be read back from what they are joined to. -/
theorem eq_of_join {texts others : List String} (noBar : ∀ text ∈ texts, '|' ∉ text.toList)
    (noBarOther : ∀ text ∈ others, '|' ∉ text.toList) (named : texts ≠ [])
    (namedOther : others ≠ []) (same : "|".intercalate texts = "|".intercalate others) :
    texts = others := by
  have isSplit := @String.toList_split_intercalate '|' texts noBar
  have isSplitOther := @String.toList_split_intercalate '|' others noBarOther
  rw [if_neg named] at isSplit
  rw [if_neg namedOther] at isSplitOther
  rw [← isSplit, ← isSplitOther]
  exact congrArg (fun text : String => (text.split '|').toList.map (·.copy)) same

/-- Keywords of one type name allow the same kinds. -/
theorem allows_eq_of_typeName {left right : TypeKeyword} {name : String}
    (isLeft : typeName (some left) = some name) (isRight : typeName (some right) = some name)
    (named : name ≠ "") (kind : JsonKind) : left.allows kind = right.allows kind := by
  rw [typeName_eq_join] at isLeft isRight
  have nonempty : ∀ keyword : TypeKeyword,
      some ("|".intercalate (sortedNames keyword)) = some name → sortedNames keyword ≠ [] := by
    intro keyword isName isEmpty
    rw [isEmpty] at isName
    exact named (Option.some.inj isName).symm
  have sameSorted : sortedNames left = sortedNames right :=
    eq_of_join noBar_of_sortedNames noBar_of_sortedNames (nonempty left isLeft)
      (nonempty right isRight) (Option.some.inj (isLeft.trans isRight.symm))
  have sameTexts : (left.names.map TypeName.text).Perm (right.names.map TypeName.text) := by
    have fromLeft := sortedNames_perm left
    rw [sameSorted] at fromLeft
    exact fromLeft.symm.trans (sortedNames_perm right)
  have sameNames := (List.map_perm_map_iff TypeName.text_injective).mp sameTexts
  exact sameNames.any_eq

/-- Both versions of a property declare its type, and the next one nothing
below it. -/
structure ComparedAsWhole (previous next : JsonSchema) : Prop where
  typed : ∃ name, typeName previous.type = some name ∧ name ≠ ""
  typedNext : ∃ name, typeName next.type = some name ∧ name ≠ ""
  required : next.requiredNames = []
  properties : next.propertyNames = []

theorem exists_keyword_of_typeName {type : Option TypeKeyword} {name : String}
    (isName : typeName type = some name) :
    ∃ keyword, type = some keyword ∧ typeName (some keyword) = some name := by
  cases type with
  | none => cases isName
  | some keyword => exact ⟨keyword, rfl, isName⟩

theorem keptBy_of_checkType {field : String} (whole : ComparedAsWhole previous next)
    (passes : checkType field (typeName previous.type) (typeName next.type) = .ok ()) :
    previous.KeptBy next := by
  obtain ⟨⟨oldName, isOld, namedOld⟩, ⟨newName, isNew, namedNew⟩, required, properties⟩ := whole
  rw [isOld, isNew] at passes
  have sameName : oldName = newName := by
    by_contra differs
    exact throwIf_eq_ok.mp passes ⟨namedOld, namedNew, differs⟩
  subst sameName
  obtain ⟨oldKeyword, isOldType, oldJoined⟩ := exists_keyword_of_typeName isOld
  obtain ⟨newKeyword, isNewType, newJoined⟩ := exists_keyword_of_typeName isNew
  have sameKinds : ∀ kind, previous.allows kind = next.allows kind := by
    intro kind
    rw [JsonSchema.allows_of_type isOldType, JsonSchema.allows_of_type isNewType]
    exact allows_eq_of_typeName oldJoined newJoined namedOld kind
  rw [JsonSchema.keptBy_iff_level]
  constructor
  · intro kind _isScalar isAllowed
    rwa [← sameKinds kind]
  · intro admits
    rw [required, properties, ← sameKinds .object]
    have isAllowed := (JsonSchema.admitsObject_iff.mp admits).1
    exact ⟨isAllowed, List.nil_subset _, fun _ _ _ declared => nomatch declared⟩

/-- The schema that is read is the declared one when this has a type. -/
theorem propertySchema_of_typed {field name : String} (declared : field ∈ next.propertyNames)
    (isName : typeName (next.schemaAt field).type = some name) :
    propertySchema next field = some (next.schemaAt field) := by
  rw [propertySchema, if_pos declared]
  cases isSchema : next.schemaAt field with
  | boolean value =>
      rw [isSchema] at isName
      cases isName
  | object type required properties schemaOf => rfl

theorem objectShape_type (schema : JsonSchema) : (objectShape schema).type = schema.type := by
  cases schema with
  | boolean value => rfl
  | object type required properties schemaOf => rfl

/-- Accepted versions whose properties are compared as a whole keep every
event valid. -/
theorem eventsStayValid_of_comparedAsWhole
    (accepted : assertBackwardCompatibleEventSchema previous next = .ok ())
    (whole : ∀ field ∈ previous.propertyNames, field ∈ next.propertyNames →
      ComparedAsWhole (previous.schemaAt field) (next.schemaAt field)) :
    EventsStayValid previous next := by
  have kept : PropertiesKept previous next := by
    intro _admits field declared _isSatisfiable declaredNext
    have comparedAt := whole field declared declaredNext
    obtain ⟨newName, isNew, -⟩ := comparedAt.typedNext
    have passes := (accepted_level accepted).2.2.2 field declared
    rw [checkProperty, propertySchema_of_typed declaredNext isNew] at passes
    simp only [objectShape_type] at passes
    exact keptBy_of_checkType comparedAt passes
  intro event described
  exact JsonSchema.validates_of_keptBy ((keptBy_iff_propertiesKept accepted).mpr kept) described

end Types

/-! ## Versions of one event -/

/-- An event with a payload of a customer; `note` may become required. -/
def customerSchema (payloadRequired : List String) : JsonSchema :=
  .record ["data"]
    [("data", .record payloadRequired [("customerId", .typed .string), ("note", .typed .string)])]

/-- A new optional property is accepted and every event stays valid. -/
theorem eventsStayValid_of_optionalAddition :
    EventsStayValid (.record ["id"] [("id", .typed .string)])
      (.record ["id"] [("id", .typed .string), ("note", .typed .string)]) := by
  have accepted : assertBackwardCompatibleEventSchema (.record ["id"] [("id", .typed .string)])
      (.record ["id"] [("id", .typed .string), ("note", .typed .string)]) = .ok () := by
    decide +kernel
  refine (eventsStayValid_iff_propertiesKept accepted).mpr ?_
  intro _admits field declared _isSatisfiable _declaredNext
  obtain rfl : field = "id" := List.mem_singleton.mp declared
  rw [JsonSchema.keptBy_iff_validates]
  intro value described
  exact described.1

/-- A field that becomes required in the payload is not seen by the check, nor
is the type of a payload that had none. -/
theorem eventsStayValid_not_of_payload :
    (assertBackwardCompatibleEventSchema (customerSchema ["customerId"])
          (customerSchema ["customerId", "note"]) = .ok () ∧
        ¬ EventsStayValid (customerSchema ["customerId"])
          (customerSchema ["customerId", "note"])) ∧
      assertBackwardCompatibleEventSchema (.record ["data"] [("data", .unconstrained)])
          (.record ["data"] [("data", .typed .object)]) = .ok () ∧
        ¬ EventsStayValid (.record ["data"] [("data", .unconstrained)])
          (.record ["data"] [("data", .typed .object)]) := by
  refine ⟨⟨by decide +kernel, ?_⟩, by decide +kernel, ?_⟩
  · intro stayValid
    have isValid := stayValid (.obj [("data", .obj [("customerId", .str "c1")])])
      ⟨by decide +kernel, by decide +kernel⟩
    revert isValid
    decide +kernel
  · intro stayValid
    have isValid := stayValid (.obj [("data", .null)]) ⟨by decide +kernel, by decide +kernel⟩
    revert isValid
    decide +kernel

end PlatformArchitecture.Domain
