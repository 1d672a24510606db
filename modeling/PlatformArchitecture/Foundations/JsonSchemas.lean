import PlatformArchitecture.Foundations.JsonPaths

/-!
# JSON schemas with types, required names and properties

The keywords `type`, `required` and `properties` of JSON Schema, nested to any
depth.  A value is described by a schema when it is valid and uses only
properties that the schema declares.  When every value that one schema
describes is valid for another can be read off the two schemas.
-/

namespace PlatformArchitecture.Foundations

/-! ## Values by their kind -/

/-- What the `type` keyword tells apart; an `integer` is a number without a
fraction. -/
inductive JsonKind where
  | null
  | boolean
  | integer
  | fraction
  | string
  | array
  | object
  deriving DecidableEq

namespace JsonKind

/-- The kinds of values without properties. -/
def scalars : List JsonKind :=
  [null, boolean, integer, fraction, string, array]

theorem mem_scalars {kind : JsonKind} : kind ∈ scalars ↔ kind ≠ object := by
  cases kind <;> decide

/-- A value of each kind. -/
def sample : JsonKind → Json
  | null => .null
  | boolean => .bool true
  | integer => .num (.finite 0)
  | fraction => .num (.finite (1 / 2))
  | string => .str ""
  | array => .arr []
  | object => .obj []

end JsonKind

/-- The kind of a value.  A literal too large for a number is still a whole
number. -/
def Json.kind : Json → JsonKind
  | .null => .null
  | .bool _ => .boolean
  | .num (.finite value) => if value.den = 1 then .integer else .fraction
  | .num (.infinite _) => .integer
  | .str _ => .string
  | .arr _ => .array
  | .obj _ => .object

theorem JsonKind.kind_sample (kind : JsonKind) : kind.sample.kind = kind := by
  cases kind with
  | fraction => decide +kernel
  | null | boolean | integer | string | array | object => rfl

theorem Json.kind_eq_object {value : Json} :
    value.kind = .object ↔ ∃ fields, value = .obj fields := by
  constructor
  · intro isObject
    cases value with
    | obj fields => exact ⟨fields, rfl⟩
    | num number =>
        cases number with
        | finite value =>
            by_cases whole : value.den = 1
            · simp [Json.kind, whole] at isObject
            · simp [Json.kind, whole] at isObject
        | infinite negative => cases isObject
    | null | bool _ | str _ | arr _ => cases isObject
  · rintro ⟨fields, rfl⟩
    rfl

/-! ## Schemas -/

inductive TypeName where
  | null
  | boolean
  | integer
  | number
  | string
  | array
  | object
  deriving DecidableEq

def TypeName.covers : TypeName → JsonKind → Bool
  | .null, .null => true
  | .boolean, .boolean => true
  | .integer, .integer => true
  | .number, .integer => true
  | .number, .fraction => true
  | .string, .string => true
  | .array, .array => true
  | .object, .object => true
  | _, _ => false

def TypeName.text : TypeName → String
  | .null => "null"
  | .boolean => "boolean"
  | .integer => "integer"
  | .number => "number"
  | .string => "string"
  | .array => "array"
  | .object => "object"

theorem TypeName.text_injective : Function.Injective TypeName.text := by
  intro left right
  cases left <;> cases right <;> simp [TypeName.text]

/-- `type` is a name or a list of names. -/
inductive TypeKeyword where
  | one (name : TypeName)
  | several (names : List TypeName)
  deriving DecidableEq

def TypeKeyword.names : TypeKeyword → List TypeName
  | one name => [name]
  | several names => names

/-- One of the names covers the kind. -/
def TypeKeyword.allows (keyword : TypeKeyword) (kind : JsonKind) : Bool :=
  keyword.names.any fun name => name.covers kind

theorem TypeKeyword.allows_one_object (kind : JsonKind) :
    (one .object).allows kind = true ↔ kind = .object := by
  cases kind <;> decide

/-- A schema.  `properties` holds the names in order and `schemaOf` the schema
under each name, so that no name has two. -/
inductive JsonSchema where
  | boolean (value : Bool)
  | object (type : Option TypeKeyword) (required properties : Option (List String))
      (schemaOf : String → JsonSchema)

namespace JsonSchema

/-- The schema `{}`. -/
def unconstrained : JsonSchema :=
  object none none none fun _ => boolean true

/-- A schema of values of one type. -/
def typed (name : TypeName) : JsonSchema :=
  object (some (.one name)) none none fun _ => boolean true

/-- A schema of objects. -/
def record (required : List String) (properties : List (String × JsonSchema)) : JsonSchema :=
  object (some (.one .object)) (some required) (some (properties.map Prod.fst)) fun name =>
    (properties.lookup name).getD (boolean true)

/-! ## The keywords; a boolean has none -/

def type : JsonSchema → Option TypeKeyword
  | boolean _ => none
  | object type _ _ _ => type

def requiredNames : JsonSchema → List String
  | boolean _ => []
  | object _ required _ _ => required.getD []

def propertyNames : JsonSchema → List String
  | boolean _ => []
  | object _ _ properties _ => properties.getD []

/-- The schema under a name of the properties. -/
def schemaAt : JsonSchema → String → JsonSchema
  | boolean value, _ => boolean value
  | object _ _ _ schemaOf, name => schemaOf name

/-- Whether the type is one of those allowed; any is without the keyword. -/
def allows : JsonSchema → JsonKind → Bool
  | boolean value, _ => value
  | object type _ _ _, kind => type.all fun keyword => keyword.allows kind

theorem allows_of_type {schema : JsonSchema} {keyword : TypeKeyword}
    (isType : schema.type = some keyword) (kind : JsonKind) :
    schema.allows kind = keyword.allows kind := by
  cases schema with
  | boolean value => cases isType
  | object type required properties schemaOf =>
      obtain rfl : type = some keyword := isType
      rfl

/-- What holds of a schema when it holds of its properties holds of all. -/
theorem propertyInduction {motive : JsonSchema → Prop}
    (step : ∀ schema : JsonSchema,
      (∀ name ∈ schema.propertyNames, motive (schema.schemaAt name)) → motive schema)
    (schema : JsonSchema) : motive schema := by
  induction schema with
  | boolean value =>
      apply step
      intro name declared
      simp [propertyNames] at declared
  | object type required properties schemaOf inductionHypothesis =>
      apply step
      intro name _declared
      exact inductionHypothesis name

/-! ## Validity -/

/-- Whether a value is valid: `required` and `properties` look at objects only. -/
def validates : JsonSchema → Json → Bool
  | boolean value, _ => value
  | object type required properties schemaOf, value =>
      (type.all fun keyword => keyword.allows value.kind) &&
        match value with
        | .obj fields =>
            ((required.getD []).all fun name => (fields.lookup name).isSome) &&
              (properties.getD []).all fun name =>
                (fields.lookup name).all fun held => (schemaOf name).validates held
        | _ => true

/-- Whether a value uses only declared properties, at every level that the
schema describes. -/
def declares : JsonSchema → Json → Bool
  | boolean _, value =>
      match value with
      | .obj fields => fields.isEmpty
      | _ => true
  | object _ _ properties schemaOf, value =>
      match value with
      | .obj fields =>
          fields.all fun field =>
            decide (field.1 ∈ properties.getD []) &&
              (fields.lookup field.1).all fun held => (schemaOf field.1).declares held
      | _ => true

/-- The value is valid and uses only declared properties. -/
def Describes (schema : JsonSchema) (value : Json) : Prop :=
  schema.validates value = true ∧ schema.declares value = true

section Values

variable {schema : JsonSchema} {value : Json} {fields : JsObject}

theorem validates_scalar_iff (scalar : value.kind ≠ .object) :
    schema.validates value = true ↔ schema.allows value.kind = true := by
  cases value with
  | obj fields => exact absurd rfl scalar
  | null | bool _ | num _ | str _ | arr _ =>
      cases schema with
      | boolean _ => rfl
      | object type required properties schemaOf => simp [validates, allows]

theorem validates_object_iff :
    schema.validates (.obj fields) = true ↔
      schema.allows .object = true ∧
        (∀ name ∈ schema.requiredNames, (fields.lookup name).isSome = true) ∧
          ∀ name ∈ schema.propertyNames, ∀ held, fields.lookup name = some held →
            (schema.schemaAt name).validates held = true := by
  cases schema with
  | boolean value => simp [validates, allows, requiredNames, propertyNames]
  | object type required properties schemaOf =>
      simp [validates, allows, requiredNames, propertyNames, schemaAt, Json.kind,
        Option.all_eq_true]

theorem declares_scalar (scalar : value.kind ≠ .object) : schema.declares value = true := by
  cases value with
  | obj fields => exact absurd rfl scalar
  | null | bool _ | num _ | str _ | arr _ => cases schema <;> rfl

theorem declares_object_iff :
    schema.declares (.obj fields) = true ↔
      ∀ name held, fields.lookup name = some held →
        name ∈ schema.propertyNames ∧ (schema.schemaAt name).declares held = true := by
  cases schema with
  | boolean value =>
      cases fields with
      | nil => simp [declares]
      | cons field rest =>
          obtain ⟨name, held⟩ := field
          have read : List.lookup name ((name, held) :: rest) = some held :=
            List.lookup_cons_self
          constructor
          · intro isEmpty
            cases isEmpty
          · intro declared
            have member := (declared name held read).1
            simp [propertyNames] at member
  | object type required properties schemaOf =>
      simp only [declares, List.all_eq_true, Bool.and_eq_true, decide_eq_true_eq,
        Option.all_eq_true, propertyNames, schemaAt]
      constructor
      · intro declared name held read
        obtain ⟨member, within⟩ := declared (name, held) (mem_of_lookup read)
        exact ⟨member, within held read⟩
      · intro declared field member
        cases read : fields.lookup field.1 with
        | none =>
            have absent := List.lookup_eq_none_iff.mp read field member
            simp at absent
        | some held =>
            refine ⟨(declared field.1 held read).1, ?_⟩
            rintro other ⟨⟩
            exact (declared field.1 held read).2

theorem describes_scalar_iff (scalar : value.kind ≠ .object) :
    schema.Describes value ↔ schema.allows value.kind = true := by
  rw [Describes, validates_scalar_iff scalar]
  exact and_iff_left (declares_scalar scalar)

theorem describes_object_iff :
    schema.Describes (.obj fields) ↔
      schema.allows .object = true ∧
        (∀ name ∈ schema.requiredNames, (fields.lookup name).isSome = true) ∧
          ∀ name held, fields.lookup name = some held →
            name ∈ schema.propertyNames ∧ (schema.schemaAt name).Describes held := by
  rw [Describes, validates_object_iff, declares_object_iff]
  constructor
  · rintro ⟨⟨isAllowed, present, valid⟩, declared⟩
    refine ⟨isAllowed, present, ?_⟩
    intro name held read
    obtain ⟨member, within⟩ := declared name held read
    exact ⟨member, valid name member held read, within⟩
  · rintro ⟨isAllowed, present, described⟩
    refine ⟨⟨isAllowed, present, ?_⟩, ?_⟩
    · intro name _member held read
      exact (described name held read).2.1
    · intro name held read
      exact ⟨(described name held read).1, (described name held read).2.2⟩

end Values

/-! ## Schemas that describe something -/

/-- Whether a schema describes a value. -/
def satisfiable : JsonSchema → Bool
  | boolean value => value
  | object type required properties schemaOf =>
      (JsonKind.scalars.any fun kind => type.all fun keyword => keyword.allows kind) ||
        ((type.all fun keyword => keyword.allows .object) &&
          (required.getD []).all fun name =>
            decide (name ∈ properties.getD []) && (schemaOf name).satisfiable)

/-- Whether it describes an object: the required ones are declared, each by a
schema that describes something. -/
def admitsObject (schema : JsonSchema) : Bool :=
  schema.allows .object && schema.requiredNames.all fun name =>
    decide (name ∈ schema.propertyNames) && (schema.schemaAt name).satisfiable

/-- A value that a schema describes, if there is one. -/
def sample : JsonSchema → Json
  | boolean _ => .null
  | object type required _ schemaOf =>
      match JsonKind.scalars.find? fun kind => type.all fun keyword => keyword.allows kind with
      | some kind => kind.sample
      | none => .obj ((required.getD []).map fun name => (name, (schemaOf name).sample))

/-- The object with just the required properties. -/
def requiredObject (schema : JsonSchema) : JsObject :=
  schema.requiredNames.map fun name => (name, (schema.schemaAt name).sample)

section Satisfiable

variable {schema : JsonSchema}

theorem satisfiable_iff :
    schema.satisfiable = true ↔
      (∃ kind, kind ≠ .object ∧ schema.allows kind = true) ∨ schema.admitsObject = true := by
  cases schema with
  | boolean value =>
      cases value with
      | true =>
          constructor
          · intro _describes
            exact Or.inl ⟨.null, by decide, rfl⟩
          · intro _admits
            rfl
      | false => simp [satisfiable, allows, admitsObject]
  | object type required properties schemaOf =>
      simp only [satisfiable, allows, admitsObject, requiredNames, propertyNames, schemaAt,
        Bool.or_eq_true, List.any_eq_true, JsonKind.mem_scalars]
      rfl

theorem admitsObject_iff :
    schema.admitsObject = true ↔
      schema.allows .object = true ∧ ∀ name ∈ schema.requiredNames,
        name ∈ schema.propertyNames ∧ (schema.schemaAt name).satisfiable = true := by
  simp [admitsObject]

theorem admitsObject_of_describes {fields : JsObject}
    (satisfiableAt : ∀ name ∈ schema.propertyNames, ∀ held,
      (schema.schemaAt name).Describes held → (schema.schemaAt name).satisfiable = true)
    (described : schema.Describes (.obj fields)) : schema.admitsObject = true := by
  obtain ⟨isAllowed, present, properties⟩ := describes_object_iff.mp described
  rw [admitsObject_iff]
  refine ⟨isAllowed, ?_⟩
  intro name required
  obtain ⟨held, read⟩ := Option.isSome_iff_exists.mp (present name required)
  obtain ⟨declared, within⟩ := properties name held read
  exact ⟨declared, satisfiableAt name declared held within⟩

/-- A schema that describes a value is satisfiable. -/
theorem satisfiable_of_describes {value : Json} (described : schema.Describes value) :
    schema.satisfiable = true := by
  induction schema using propertyInduction generalizing value with
  | step schema inductionHypothesis =>
      rw [satisfiable_iff]
      by_cases isObject : value.kind = .object
      · obtain ⟨fields, rfl⟩ := Json.kind_eq_object.mp isObject
        right
        apply admitsObject_of_describes _ described
        intro name declared held within
        exact inductionHypothesis name declared within
      · left
        exact ⟨value.kind, isObject, (describes_scalar_iff isObject).mp described⟩

theorem lookup_requiredObject (name : String) :
    schema.requiredObject.lookup name =
      if name ∈ schema.requiredNames then some (schema.schemaAt name).sample else none := by
  unfold requiredObject
  induction schema.requiredNames with
  | nil => rfl
  | cons required rest inductionHypothesis =>
      rw [List.map_cons, List.lookup_cons]
      by_cases same : name = required
      · simp [same]
      · have differs : (name == required) = false := beq_false_of_ne same
        rw [differs, inductionHypothesis]
        simp [same]

/-- Declared properties can be added to the required ones. -/
theorem describes_added {added : JsObject} (admits : schema.admitsObject = true)
    (samples : ∀ name ∈ schema.propertyNames, (schema.schemaAt name).satisfiable = true →
      (schema.schemaAt name).Describes (schema.schemaAt name).sample)
    (described : ∀ name held, added.lookup name = some held →
      name ∈ schema.propertyNames ∧ (schema.schemaAt name).Describes held) :
    schema.Describes (.obj (added ++ schema.requiredObject)) := by
  obtain ⟨isAllowed, required⟩ := admitsObject_iff.mp admits
  rw [describes_object_iff]
  refine ⟨isAllowed, ?_, ?_⟩
  · intro name isRequired
    rw [List.lookup_append, lookup_requiredObject, if_pos isRequired]
    cases added.lookup name with
    | none => rfl
    | some held => rfl
  · intro name held read
    rw [List.lookup_append, lookup_requiredObject] at read
    cases isAdded : added.lookup name with
    | some first =>
        rw [isAdded] at read
        obtain rfl := Option.some.inj read
        exact described name first isAdded
    | none =>
        rw [isAdded, Option.none_or] at read
        by_cases isRequired : name ∈ schema.requiredNames
        · rw [if_pos isRequired] at read
          obtain rfl := Option.some.inj read
          obtain ⟨declared, isSatisfiable⟩ := required name isRequired
          exact ⟨declared, samples name declared isSatisfiable⟩
        · rw [if_neg isRequired] at read
          cases read

/-- A satisfiable schema describes its sample. -/
theorem describes_sample (isSatisfiable : schema.satisfiable = true) :
    schema.Describes schema.sample := by
  induction schema using propertyInduction with
  | step schema inductionHypothesis =>
      cases schema with
      | boolean value =>
          have isScalar : (JsonSchema.boolean value).sample.kind ≠ .object := by
            intro isObject
            cases isObject
          exact (describes_scalar_iff isScalar).mpr isSatisfiable
      | object type required properties schemaOf =>
          rw [sample]
          split
          · next kind found =>
            have isScalar : kind.sample.kind ≠ .object := by
              rw [JsonKind.kind_sample]
              exact JsonKind.mem_scalars.mp (List.mem_of_find?_eq_some found)
            rw [describes_scalar_iff isScalar, JsonKind.kind_sample]
            exact List.find?_some found
          · next noScalar =>
            rw [satisfiable_iff] at isSatisfiable
            rcases isSatisfiable with ⟨kind, isScalar, isAllowed⟩ | admits
            · have refused :=
                List.find?_eq_none.mp noScalar kind (JsonKind.mem_scalars.mpr isScalar)
              exact absurd isAllowed refused
            · exact @describes_added _ [] admits inductionHypothesis (by simp)

end Satisfiable

/-! ## Schemas that keep what another describes -/

/-- What has to hold of two schemas at one level.  Objects are compared only if
the previous schema describes one, and a property only if it can be there. -/
structure KeptLevel (previous next : JsonSchema) (deeper : String → Prop) : Prop where
  scalars : ∀ kind, kind ≠ .object → previous.allows kind = true → next.allows kind = true
  objects : previous.admitsObject = true →
    next.allows .object = true ∧ next.requiredNames ⊆ previous.requiredNames ∧
      ∀ name ∈ previous.propertyNames, (previous.schemaAt name).satisfiable = true →
        name ∈ next.propertyNames → deeper name

/-- The next schema keeps the previous one at every level. -/
def KeptBy : JsonSchema → JsonSchema → Prop
  | boolean value, next => KeptLevel (boolean value) next fun _ => True
  | object type required properties schemaOf, next =>
      KeptLevel (object type required properties schemaOf) next fun name =>
        (schemaOf name).KeptBy (next.schemaAt name)

section Kept

variable {previous next : JsonSchema}

theorem keptBy_iff_level :
    previous.KeptBy next ↔
      KeptLevel previous next fun name =>
        (previous.schemaAt name).KeptBy (next.schemaAt name) := by
  cases previous with
  | object type required properties schemaOf => exact Iff.rfl
  | boolean value =>
      have noProperty : ∀ name, name ∉ (JsonSchema.boolean value).propertyNames := by
        simp [propertyNames]
      constructor
      · rintro ⟨scalars, objects⟩
        refine ⟨scalars, fun admits => ?_⟩
        obtain ⟨isAllowed, required, -⟩ := objects admits
        exact ⟨isAllowed, required, fun name declared => absurd declared (noProperty name)⟩
      · rintro ⟨scalars, objects⟩
        refine ⟨scalars, fun admits => ?_⟩
        obtain ⟨isAllowed, required, -⟩ := objects admits
        exact ⟨isAllowed, required, fun name declared => absurd declared (noProperty name)⟩

/-- What a kept schema describes is valid for the next. -/
theorem validates_of_keptBy {value : Json} (kept : previous.KeptBy next)
    (described : previous.Describes value) : next.validates value = true := by
  induction previous using propertyInduction generalizing next value with
  | step previous inductionHypothesis =>
      obtain ⟨scalars, objects⟩ := keptBy_iff_level.mp kept
      by_cases isObject : value.kind = .object
      · obtain ⟨fields, rfl⟩ := Json.kind_eq_object.mp isObject
        have admits : previous.admitsObject = true :=
          admitsObject_of_describes (fun _ _ _ within => satisfiable_of_describes within) described
        obtain ⟨isAllowed, requires, deeper⟩ := objects admits
        obtain ⟨-, present, properties⟩ := describes_object_iff.mp described
        rw [validates_object_iff]
        refine ⟨isAllowed, ?_, ?_⟩
        · intro name required
          exact present name (requires required)
        · intro name declaredNext held read
          obtain ⟨declared, within⟩ := properties name held read
          have keptAt := deeper name declared (satisfiable_of_describes within) declaredNext
          exact inductionHypothesis name declared keptAt within
      · rw [validates_scalar_iff isObject]
        exact scalars value.kind isObject ((describes_scalar_iff isObject).mp described)

/-- A schema whose values all are valid for the next is kept by it. -/
theorem keptBy_of_validates
    (valid : ∀ value, previous.Describes value → next.validates value = true) :
    previous.KeptBy next := by
  induction previous using propertyInduction generalizing next with
  | step previous inductionHypothesis =>
      have validAdded : ∀ added : JsObject, previous.admitsObject = true →
          (∀ name held, added.lookup name = some held →
            name ∈ previous.propertyNames ∧ (previous.schemaAt name).Describes held) →
          next.validates (.obj (added ++ previous.requiredObject)) = true := by
        intro added admits described
        exact valid _ (describes_added admits (fun _ _ => describes_sample) described)
      rw [keptBy_iff_level]
      constructor
      · intro kind isScalar isAllowed
        have isScalarSample : kind.sample.kind ≠ .object := by
          rwa [JsonKind.kind_sample]
        have sampleValid := valid kind.sample
          ((describes_scalar_iff isScalarSample).mpr (by rwa [JsonKind.kind_sample]))
        rwa [validates_scalar_iff isScalarSample, JsonKind.kind_sample] at sampleValid
      · intro admits
        obtain ⟨isAllowed, present, -⟩ :=
          validates_object_iff.mp (validAdded [] admits (by simp))
        refine ⟨isAllowed, ?_, ?_⟩
        · intro name required
          have isPresent := present name required
          rw [List.nil_append, lookup_requiredObject] at isPresent
          by_contra optional
          rw [if_neg optional] at isPresent
          cases isPresent
        · intro name declared _isSatisfiable declaredNext
          apply inductionHypothesis name declared
          intro held within
          have added : ∀ other value, List.lookup other [(name, held)] = some value →
              other ∈ previous.propertyNames ∧ (previous.schemaAt other).Describes value := by
            intro other value read
            obtain ⟨rfl, rfl⟩ : other = name ∧ value = held := by
              have member := mem_of_lookup read
              simpa using member
            exact ⟨declared, within⟩
          obtain ⟨-, -, properties⟩ :=
            validates_object_iff.mp (validAdded [(name, held)] admits added)
          exact properties name declaredNext held List.lookup_cons_self

/-- A schema is kept just when everything that it describes stays valid. -/
theorem keptBy_iff_validates :
    previous.KeptBy next ↔
      ∀ value, previous.Describes value → next.validates value = true := by
  constructor
  · intro kept value described
    exact validates_of_keptBy kept described
  · exact keptBy_of_validates

end Kept

end JsonSchema

end PlatformArchitecture.Foundations
