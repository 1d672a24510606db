import Mathlib.Data.Rat.Defs
import Mathlib.Data.List.Sort

/-!
# JSON values and the operators that read them

The values a request body, a stored document or a configuration layer can
hold, with the parts of the language that look at them: truthiness, property
access, object spread and the round trip through a JSON text.  An absent value
(`undefined`) is `none`.
-/

namespace PlatformArchitecture.Foundations

/-- A number as the language holds it after parsing: `1e999` parses to an
infinity. -/
inductive JsNumber where
  | finite (value : ℚ)
  | infinite (negative : Bool)
  deriving DecidableEq

/-- A parsed JSON value. -/
inductive Json where
  | null
  | bool (value : Bool)
  | num (value : JsNumber)
  | str (value : String)
  | arr (items : List Json)
  | obj (fields : List (String × Json))

namespace Json

mutual

/-- Equality of values is decided constructor by constructor. -/
def decEq : (left right : Json) → Decidable (left = right)
  | null, null => isTrue rfl
  | bool left, bool right =>
      decidable_of_iff (left = right) (by simp)
  | num left, num right =>
      decidable_of_iff (left = right) (by simp)
  | str left, str right =>
      decidable_of_iff (left = right) (by simp)
  | arr left, arr right =>
      @decidable_of_iff _ (left = right) (by simp) (decEqItems left right)
  | obj left, obj right =>
      @decidable_of_iff _ (left = right) (by simp) (decEqFields left right)
  | null, bool _ | null, num _ | null, str _ | null, arr _ | null, obj _ =>
      isFalse (by simp)
  | bool _, null | bool _, num _ | bool _, str _ | bool _, arr _
  | bool _, obj _ =>
      isFalse (by simp)
  | num _, null | num _, bool _ | num _, str _ | num _, arr _ | num _, obj _ =>
      isFalse (by simp)
  | str _, null | str _, bool _ | str _, num _ | str _, arr _ | str _, obj _ =>
      isFalse (by simp)
  | arr _, null | arr _, bool _ | arr _, num _ | arr _, str _ | arr _, obj _ =>
      isFalse (by simp)
  | obj _, null | obj _, bool _ | obj _, num _ | obj _, str _ | obj _, arr _ =>
      isFalse (by simp)

def decEqItems : (left right : List Json) → Decidable (left = right)
  | [], [] => isTrue rfl
  | [], _ :: _ => isFalse (by simp)
  | _ :: _, [] => isFalse (by simp)
  | left :: lefts, right :: rights =>
      @decidable_of_iff _ (left = right ∧ lefts = rights) (by simp)
        (@instDecidableAnd _ _ (decEq left right) (decEqItems lefts rights))

def decEqFields : (left right : List (String × Json)) → Decidable (left = right)
  | [], [] => isTrue rfl
  | [], _ :: _ => isFalse (by simp)
  | _ :: _, [] => isFalse (by simp)
  | (leftKey, left) :: lefts, (rightKey, right) :: rights =>
      @decidable_of_iff _ (leftKey = rightKey ∧ left = right ∧ lefts = rights)
        (by simp [and_assoc])
        (@instDecidableAnd _ _ inferInstance
          (@instDecidableAnd _ _ (decEq left right) (decEqFields lefts rights)))

end

instance : DecidableEq Json :=
  decEq

/-- Whether a value counts as true in a condition. -/
def truthy : Json → Bool
  | null => false
  | bool value => value
  | num value => value ≠ .finite 0
  | str value => value ≠ ""
  | arr _ => true
  | obj _ => true

/-- The own enumerable properties of a value, as `Object.entries` and object
spread see them: array items and the characters of a string appear under their
index. -/
def entries : Json → List (String × Json)
  | null => []
  | bool _ => []
  | num _ => []
  | str value => value.toList.zipIdx.map fun unit => (toString unit.2, str (toString unit.1))
  | arr items => items.zipIdx.map fun item => (toString item.2, item.1)
  | obj fields => fields

/-- `value.key` of a value that is not null: the property of an object and
`undefined` on every other value, for the names the services read. -/
def property (key : String) : Json → Option Json
  | obj fields => fields.lookup key
  | _ => none

end Json

/-- Whether an optional value counts as true: `undefined` does not. -/
def truthy (value : Option Json) : Bool :=
  value.any Json.truthy

/-- `value?.key`. -/
def optionalProperty (value : Option Json) (key : String) : Option Json :=
  value.bind (Json.property key)

/-- The names that an object inherits: reading one finds a function or an
object, where it has no property of its own. -/
def inheritedProperties : List String :=
  ["constructor", "hasOwnProperty", "isPrototypeOf", "propertyIsEnumerable",
    "toLocaleString", "toString", "valueOf", "__proto__", "__defineGetter__",
    "__defineSetter__", "__lookupGetter__", "__lookupSetter__"]

/-- An object under construction: the property read first wins. -/
abbrev JsObject :=
  List (String × Json)

/-- `{ ...base, ...upper }`: properties of `upper` hide those of `base`. -/
def spread (base upper : JsObject) : JsObject :=
  upper ++ base

theorem lookup_spread (base upper : JsObject) (key : String) :
    (spread base upper).lookup key = (upper.lookup key).or (base.lookup key) :=
  List.lookup_append

/-- The properties `{ ...value }` copies; spreading `undefined` or `null`
copies nothing. -/
def spreadable (value : Option Json) : JsObject :=
  (value.map Json.entries).getD []

namespace Json

mutual

/-- `${value}`: an array is joined by commas.  A fraction is printed as a
quotient, where the language prints decimals. -/
def text : Json → String
  | null => "null"
  | bool value => if value then "true" else "false"
  | num (.finite value) =>
      if value.den = 1 then toString value.num
      else toString value.num ++ "/" ++ toString value.den
  | num (.infinite negative) => if negative then "-Infinity" else "Infinity"
  | str value => value
  | arr items => ",".intercalate (itemTexts items)
  | obj _ => "[object Object]"

def itemTexts : List Json → List String
  | [] => []
  | null :: rest => "" :: itemTexts rest
  | item :: rest => item.text :: itemTexts rest

end

mutual

/-- A value written as JSON text and parsed again: infinities become `null`,
everything else is unchanged. -/
def reparsed : Json → Json
  | null => null
  | bool value => bool value
  | num (.finite value) => num (.finite value)
  | num (.infinite _) => null
  | str value => str value
  | arr items => arr (reparsedItems items)
  | obj fields => obj (reparsedFields fields)

def reparsedItems : List Json → List Json
  | [] => []
  | item :: rest => item.reparsed :: reparsedItems rest

def reparsedFields : List (String × Json) → List (String × Json)
  | [] => []
  | (key, value) :: rest => (key, value.reparsed) :: reparsedFields rest

end

mutual

theorem reparsed_reparsed : ∀ value : Json, value.reparsed.reparsed = value.reparsed
  | null | bool _ | str _ | num (.finite _) | num (.infinite _) => rfl
  | arr items => congrArg arr (reparsedItems_reparsedItems items)
  | obj fields => congrArg obj (reparsedFields_reparsedFields fields)

theorem reparsedItems_reparsedItems :
    ∀ items : List Json, reparsedItems (reparsedItems items) = reparsedItems items
  | [] => rfl
  | item :: rest =>
      congrArg₂ List.cons (reparsed_reparsed item) (reparsedItems_reparsedItems rest)

theorem reparsedFields_reparsedFields :
    ∀ fields : List (String × Json),
      reparsedFields (reparsedFields fields) = reparsedFields fields
  | [] => rfl
  | (key, value) :: rest =>
      congrArg₂ List.cons (congrArg (Prod.mk key) (reparsed_reparsed value))
        (reparsedFields_reparsedFields rest)

end

mutual

/-- A value with the properties of every object ordered by name.  Two values
are deeply equal, whatever the order of their properties, when these are
equal. -/
def sorted : Json → Json
  | null => null
  | bool value => bool value
  | num value => num value
  | str value => str value
  | arr items => arr (sortedItems items)
  | obj fields =>
      obj ((sortedFields fields).insertionSort fun left right => left.1 ≤ right.1)

def sortedItems : List Json → List Json
  | [] => []
  | item :: rest => item.sorted :: sortedItems rest

def sortedFields : List (String × Json) → List (String × Json)
  | [] => []
  | (key, value) :: rest => (key, value.sorted) :: sortedFields rest

end

@[simp]
theorem sorted_str (value : String) : (str value).sorted = str value :=
  rfl

/-- What a document column keeps of a value: neither the order of properties
nor infinities. -/
def document (value : Json) : Json :=
  value.reparsed.sorted

theorem lookup_sortedFields (fields : List (String × Json)) (key : String) :
    (sortedFields fields).lookup key = (fields.lookup key).map sorted := by
  induction fields with
  | nil => rfl
  | cons field rest inductionHypothesis =>
      obtain ⟨name, value⟩ := field
      cases same : key == name with
      | true => simp [sortedFields, List.lookup_cons, same]
      | false => simp [sortedFields, List.lookup_cons, same, inductionHypothesis]

theorem lookup_reparsedFields (fields : List (String × Json)) (key : String) :
    (reparsedFields fields).lookup key = (fields.lookup key).map reparsed := by
  induction fields with
  | nil => rfl
  | cons field rest inductionHypothesis =>
      obtain ⟨name, value⟩ := field
      cases same : key == name with
      | true => simp [reparsedFields, List.lookup_cons, same]
      | false => simp [reparsedFields, List.lookup_cons, same, inductionHypothesis]

/-- A field is inserted before the fields of its name, so it is the one that is
read. -/
theorem lookup_orderedInsert (field : String × Json) (fields : List (String × Json))
    (key : String) :
    (fields.orderedInsert (fun left right => left.1 ≤ right.1) field).lookup key =
      (field :: fields).lookup key := by
  induction fields with
  | nil => rfl
  | cons first rest inductionHypothesis =>
      rw [List.orderedInsert_cons]
      by_cases before : field.1 ≤ first.1
      · rw [if_pos before]
      · have different : field.1 ≠ first.1 := by
          intro same
          rw [same] at before
          exact before (String.le_refl first.1)
        rw [if_neg before, List.lookup_cons, inductionHypothesis, List.lookup_cons,
          List.lookup_cons, List.lookup_cons]
        cases isFirst : key == first.1 with
        | true =>
            have notField : (key == field.1) = false := by
              rw [eq_of_beq isFirst]
              exact beq_false_of_ne different.symm
            simp [notField]
        | false => rfl

theorem lookup_insertionSort (fields : List (String × Json)) (key : String) :
    (fields.insertionSort fun left right => left.1 ≤ right.1).lookup key =
      fields.lookup key := by
  induction fields with
  | nil => rfl
  | cons field rest inductionHypothesis =>
      rw [List.insertionSort_cons, lookup_orderedInsert, List.lookup_cons, List.lookup_cons,
        inductionHypothesis]

/-- The properties of a document are the documents of the properties. -/
theorem property_document (value : Json) (key : String) :
    value.document.property key = (value.property key).map document := by
  cases value with
  | null | bool _ | str _ | arr _ => rfl
  | num number =>
      cases number with
      | finite _ | infinite _ => rfl
  | obj fields =>
      simp only [document, reparsed, sorted, property, lookup_insertionSort, lookup_sortedFields,
        lookup_reparsedFields, Option.map_map]
      rfl

theorem eq_bool_of_document {value : Json} {flag : Bool}
    (same : value.document = .bool flag) : value = .bool flag := by
  cases value with
  | null | str _ | arr _ | obj _ => cases same
  | num number =>
      cases number with
      | finite _ | infinite _ => cases same
  | bool _ =>
      cases same
      rfl

end Json

end PlatformArchitecture.Foundations
