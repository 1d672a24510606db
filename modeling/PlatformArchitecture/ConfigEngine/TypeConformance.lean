import PlatformArchitecture.ConfigEngine.ValidState

/-!
# The type of a desired state

A state is declared as a `DesiredState`; the validator receives any JSON value.
What it accepts has that type as far as it looks.
-/

namespace PlatformArchitecture.ConfigEngine

open PlatformArchitecture.Foundations

def isString : Option Json → Bool
  | some (.str _) => true
  | _ => false

def isObject : Option Json → Bool
  | some (.obj _) => true
  | _ => false

/-- A property of type `Record<string, T>`. -/
def isRecord (isValue : Json → Bool) : Option Json → Bool
  | some (.obj fields) => fields.all fun field => isValue field.2
  | _ => false

/-- An optional property: absent, or of its type. -/
def isOptional (isType : Option Json → Bool) (value : Option Json) : Bool :=
  value = none || isType value

/-- A fallback is a string, and one of the catalogue where the capability has
one. -/
def isFallback (name : String) (value : Option Json) : Bool :=
  match fallbackProviders.lookup name with
  | none => isString value
  | some fallbacks => fallbacks.any fun fallback => value = some (.str fallback)

/-- `CapabilitySelection` of one capability. -/
structure SelectionConforms (name : String) (allowed : List String)
    (value : Option Json) : Prop where
  enabled : isBoolean (optionalProperty value "enabled")
  provider : ∃ provider ∈ allowed, optionalProperty value "provider" = some (.str provider)
  fallback : isOptional (isFallback name) (optionalProperty value "fallback")
  required : isOptional isBoolean (optionalProperty value "required")

/-- `DesiredState`. -/
structure Conforms (state : Option Json) : Prop where
  profile : isString (optionalProperty (optionalProperty state "platform") "profile")
  capabilities : ∀ provider ∈ providers, SelectionConforms provider.1 provider.2
    (optionalProperty (optionalProperty state "platform") provider.1)
  observability : ∀ key ∈ ["metrics", "tracing", "logging"],
    isBoolean (optionalProperty
      (optionalProperty (optionalProperty state "platform") "observability") key)
  features : isRecord (fun flag => isBoolean (some flag)) (optionalProperty state "features")
  limits : isOptional (isRecord isLimit) (optionalProperty state "limits")

/-- A fallback that the validator does not compare with a catalogue: there is
none for the capability, or the fallback counts as false. -/
def fallbackUnchecked (name : String) (fallback : Option Json) : Bool :=
  fallbackProviders.lookup name = none || !truthy fallback

/-- What no check looks at has the declared type. -/
structure UncheckedConforms (state : Option Json) : Prop where
  profile : isString (optionalProperty (optionalProperty state "platform") "profile")
  required : ∀ provider ∈ providers, isOptional isBoolean
    (optionalProperty
      (optionalProperty (optionalProperty state "platform") provider.1) "required")
  fallback : ∀ provider ∈ providers,
    fallbackUnchecked provider.1 (optionalProperty
      (optionalProperty (optionalProperty state "platform") provider.1) "fallback") →
    isOptional (isFallback provider.1) (optionalProperty
      (optionalProperty (optionalProperty state "platform") provider.1) "fallback")
  features : isObject (optionalProperty state "features")
  limits : isOptional isObject (optionalProperty state "limits")

theorem isRecord_iff {isValue : Json → Bool} {value : Option Json} :
    isRecord isValue value ↔
      isObject value ∧ ∀ entry ∈ spreadable value, isValue entry.2 := by
  cases value with
  | none => simp [isRecord, isObject]
  | some value =>
      cases value with
      | obj fields => simp [isRecord, isObject, spreadable, Json.entries]
      | null | bool | num | str | arr => simp [isRecord, isObject]

theorem truthy_of_isObject {value : Option Json} (given : isObject value) : truthy value := by
  cases value with
  | none => cases given
  | some value =>
      cases value with
      | obj fields => rfl
      | null | bool | num | str | arr => cases given

/-- A checked fallback is absent or one that the type allows. -/
theorem isFallback_of_checked {name : String} {allowed : List String} {s : CapabilitySelection}
    (checked : SelectionChecked name allowed s)
    (compared : fallbackUnchecked name s.fallback = false) : isFallback name s.fallback := by
  unfold fallbackUnchecked at compared
  simp only [Bool.or_eq_false_iff, decide_eq_false_iff_not, Bool.not_eq_false'] at compared
  obtain ⟨catalogued, given⟩ := compared
  obtain ⟨fallbacks, listed⟩ := Option.ne_none_iff_exists'.mp catalogued
  obtain ⟨f, member, same⟩ := (checked.fallback fallbacks listed).2 given
  unfold isFallback
  rw [listed, same]
  exact List.any_eq_true.mpr ⟨f, member, decide_eq_true rfl⟩

/-- A selection without issues has its type when the unchecked properties
have. -/
theorem selectionConforms_of_checked {name : String} {allowed : List String}
    {value : Option Json} {s : CapabilitySelection} (selected : sel value = some s)
    (checked : SelectionChecked name allowed s)
    (required : isOptional isBoolean (optionalProperty value "required"))
    (fallback : fallbackUnchecked name (optionalProperty value "fallback") →
      isOptional (isFallback name) (optionalProperty value "fallback")) :
    SelectionConforms name allowed value := by
  obtain ⟨-, hasEnabled, hasProvider, hasFallback, -⟩ := sel_eq_some selected
  constructor
  · rw [hasEnabled]
    rfl
  · exact ⟨s.provider, checked.provider, hasProvider⟩
  · by_cases unchecked : fallbackUnchecked name (optionalProperty value "fallback")
    · exact fallback unchecked
    · rw [hasFallback] at unchecked ⊢
      have allowedFallback := isFallback_of_checked checked (Bool.not_eq_true _ ▸ unchecked)
      unfold isOptional
      rw [allowedFallback, Bool.or_true]
  · exact required

theorem uncheckedConforms_of_conforms {state : Option Json} (conforms : Conforms state) :
    UncheckedConforms state := by
  constructor
  · exact conforms.profile
  · intro provider member
    exact (conforms.capabilities provider member).required
  · intro provider member _unchecked
    exact (conforms.capabilities provider member).fallback
  · exact (isRecord_iff.mp conforms.features).1
  · have limits := conforms.limits
    unfold isOptional at limits ⊢
    rw [Bool.or_eq_true] at limits ⊢
    exact limits.imp_right fun record => (isRecord_iff.mp record).1

theorem conforms_of_unchecked {state : Option Json} (valid : ValidState state)
    (unchecked : UncheckedConforms state) : Conforms state := by
  have observed : truthy
      (optionalProperty (optionalProperty state "platform") "observability") :=
    truthy_of_property valid.logging
  constructor
  · exact unchecked.profile
  · intro provider member
    obtain ⟨s, selected, checked⟩ := valid.capabilities provider member
    exact selectionConforms_of_checked selected checked (unchecked.required provider member)
      (unchecked.fallback provider member)
  · exact valid.observability observed
  · exact isRecord_iff.mpr ⟨unchecked.features, valid.flags⟩
  · have limits := unchecked.limits
    unfold isOptional at limits ⊢
    rw [Bool.or_eq_true] at limits ⊢
    refine limits.imp_right fun given => isRecord_iff.mpr ⟨given, ?_⟩
    exact valid.limits (truthy_of_isObject given)

/-- An accepted state is a `DesiredState` exactly when the properties that the
validator does not look at are of their type. -/
theorem conforms_iff_uncheckedConforms (state : Option Json) (environment : String)
    (valid : (validatePlatformState state environment).valid = true) :
    Conforms state ↔ UncheckedConforms state := by
  constructor
  · exact uncheckedConforms_of_conforms
  · exact conforms_of_unchecked (validState_of_valid valid)

/-- The local state passes, and the properties the validator skips have their
types. -/
theorem localStateConforms :
    (validatePlatformState (some (localState [])) "local").valid = true ∧
      (Conforms (some (localState [])) ↔ UncheckedConforms (some (localState []))) :=
  ⟨by decide, conforms_iff_uncheckedConforms (some (localState [])) "local" (by decide)⟩

/-- A number as profile is accepted. -/
theorem numericProfileAccepted :
    ¬ ∀ (state : Option Json) (environment : String),
      (validatePlatformState state environment).valid = true → Conforms state := by
  intro sound
  have accepted : (validatePlatformState
      (some (localState [("profile", .num (.finite 7))])) "local").valid = true := by
    decide
  have conforms := sound _ "local" accepted
  have profile := conforms.profile
  revert profile
  decide

end PlatformArchitecture.ConfigEngine
