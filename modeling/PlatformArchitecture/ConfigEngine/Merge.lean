import Mathlib.Data.List.ReduceOption
import PlatformArchitecture.Foundations.JsonPaths

/-!
# Configuration layers

`resolveDesiredState` merges six layers, the later ones over the earlier.  At
every path the last layer that decides it determines what is seen there.
-/

namespace PlatformArchitecture.ConfigEngine

open PlatformArchitecture.Foundations
open PlatformArchitecture.Foundations.Json

mutual

/-- What the loop of `deepMerge` assigns to a property: an object is merged
into an object, and everything else is cloned. -/
def mergedProperty (current : Option Json) : Json → Json
  | .obj entries =>
      match current with
      | some (.obj fields) => .obj (assignEntries fields entries)
      | _ => .obj entries
  | .arr items => .arr items
  | .str value => .str value
  | .num value => .num value
  | .bool value => .bool value
  | .null => .null

/-- The loop of `deepMerge` over the entries of the patch. -/
def assignEntries (out : JsObject) : JsObject → JsObject
  | [] => out
  | (key, value) :: rest =>
      assignEntries (setProperty out key (mergedProperty (out.lookup key) value)) rest

end

section MergedProperty

variable {current : Option Json} {value : Json} {out entries fields : JsObject}

theorem mergedProperty_of_leaf (isLeaf : value.isObject = false) :
    mergedProperty current value = value := by
  cases value with
  | obj entries => cases isLeaf
  | null | bool | num | str | arr => rfl

/-- The recursive call replaces a base that is not an object. -/
theorem mergedProperty_of_replaced (noFields : current.any Json.isObject = false) :
    mergedProperty current (.obj entries) = .obj entries := by
  cases current with
  | none => rfl
  | some held =>
      cases held with
      | obj fields => cases noFields
      | null | bool | num | str | arr => rfl

end MergedProperty

/-! ## Merging keeps objects well formed -/

mutual

theorem wellFormed_mergedProperty : ∀ (current : Option Json) (value : Json),
    (∀ held ∈ current, held.WellFormed) → value.WellFormed →
      (mergedProperty current value).WellFormed
  | current, .obj entries, held, isValue => by
      unfold mergedProperty
      split
      · next fields =>
        exact wellFormed_assignEntries fields entries (held _ rfl) isValue.2.1 isValue.2.2
      · exact isValue
  | _, .arr _, _, isValue => isValue
  | _, .str _, _, isValue => isValue
  | _, .num _, _, isValue => isValue
  | _, .bool _, _, isValue => isValue
  | _, .null, _, isValue => isValue

theorem wellFormed_assignEntries : ∀ out entries : JsObject,
    (Json.obj out).WellFormed → "__proto__" ∉ entries.map Prod.fst → WellFormedFields entries →
      (Json.obj (assignEntries out entries)).WellFormed
  | _, [], object, _, _ => object
  | out, (key, value) :: rest, object, noProto, values => by
      have isName : key ≠ "__proto__" := fun same => noProto (same ▸ List.mem_cons_self)
      have held : ∀ held ∈ out.lookup key, held.WellFormed := fun held found =>
        wellFormedFields_iff.mp object.2.2 (key, held) (mem_of_lookup found)
      have merged := wellFormed_mergedProperty (out.lookup key) value held values.1
      exact wellFormed_assignEntries _ rest (wellFormed_setProperty object isName merged)
        (fun member => noProto (List.mem_cons_of_mem key member)) values.2

end

/-- `deepMerge(base, patch)` of objects; an absent patch changes nothing. -/
def deepMerge (base : JsonObject) (patch : Option JsonObject) : JsonObject :=
  match patch with
  | none => base
  | some patch =>
      { fields := assignEntries base.fields patch.fields
        wellFormed := wellFormed_assignEntries base.fields patch.fields base.wellFormed
          patch.wellFormed.2.1 patch.wellFormed.2.2 }

structure ConfigLayers where
  compiledDefaults : JsonObject
  environment : Option JsonObject
  secretReferences : Option JsonObject
  platformDesiredState : Option JsonObject
  tenantOverrides : Option JsonObject
  workspaceOverrides : Option JsonObject

def resolveDesiredState (layers : ConfigLayers) : JsonObject :=
  let result := layers.compiledDefaults
  let result := deepMerge result layers.environment
  let result := deepMerge result layers.secretReferences
  let result := deepMerge result layers.platformDesiredState
  let result := deepMerge result layers.tenantOverrides
  let result := deepMerge result layers.workspaceOverrides
  result

/-! ## One merge, seen along a path -/

section Paths

variable {out entries : JsObject} {key : String}

theorem lookup_assignEntries (distinct : (entries.map Prod.fst).Nodup) :
    (assignEntries out entries).lookup key =
      ((entries.lookup key).map (mergedProperty (out.lookup key))).or (out.lookup key) := by
  induction entries generalizing out with
  | nil => rfl
  | cons entry rest inductionHypothesis =>
      obtain ⟨name, value⟩ := entry
      obtain ⟨first, later⟩ := List.nodup_cons.mp distinct
      unfold assignEntries
      rw [inductionHypothesis later, lookup_setProperty]
      by_cases same : key = name
      · subst same
        rw [lookup_eq_none first]
        simp
      · rw [if_neg same, lookup_cons_of_ne same]

/-- A patch determines the paths it decides and leaves the others as they
were. -/
theorem shapeAt_mergedProperty (path : List String) (current : Option Json) (value : Json)
    (object : value.WellFormed) :
    shapeAt path (mergedProperty current value) =
      if decides path value then shapeAt path value else current.bind (shapeAt path) := by
  induction path generalizing current value with
  | nil =>
      cases value with
      | obj entries =>
          cases current with
          | none => rfl
          | some held => cases held <;> rfl
      | null | bool | num | str | arr => rfl
  | cons key rest inductionHypothesis =>
      by_cases isObject : value.isObject
      · cases value with
        | null | bool | num | str | arr => cases isObject
        | obj entries =>
            by_cases hasFields : current.any Json.isObject
            · obtain ⟨held, isHeld, heldObject⟩ := (Option.any_eq_true _ _).mp hasFields
              subst isHeld
              cases held with
              | null | bool | num | str | arr => cases heldObject
              | obj fields =>
                  unfold mergedProperty
                  rw [Option.bind_some, shapeAt_cons_obj, shapeAt_cons_obj, shapeAt_cons_obj,
                    decides_cons_obj, lookup_assignEntries object.1]
                  cases found : entries.lookup key with
                  | none => rfl
                  | some patched =>
                      have patchedFormed := wellFormedFields_iff.mp object.2.2 (key, patched)
                        (mem_of_lookup found)
                      exact inductionHypothesis (fields.lookup key) patched patchedFormed
            · have noFields := Bool.not_eq_true _ ▸ hasFields
              rw [mergedProperty_of_replaced noFields]
              split
              · rfl
              · next undecided =>
                rw [shapeAt_of_undecided (Bool.not_eq_true _ ▸ undecided)]
                cases current with
                | none => rfl
                | some held =>
                    exact (shapeAt_cons_leaf (by simpa using noFields)).symm
      · have isLeaf := Bool.not_eq_true _ ▸ isObject
        rw [mergedProperty_of_leaf isLeaf, if_pos (decides_leaf isLeaf)]

theorem shapeAt_deepMerge (base patch : JsonObject) (path : List String) :
    shapeAt path (deepMerge base (some patch)).toJson =
      if decides path patch.toJson then shapeAt path patch.toJson
      else shapeAt path base.toJson :=
  shapeAt_mergedProperty path (some base.toJson) patch.toJson patch.wellFormed

end Paths

/-! ## The last layer that decides -/

/-- The layers that are given, the highest precedence first. -/
def ConfigLayers.byPrecedence (layers : ConfigLayers) : List JsonObject :=
  [layers.workspaceOverrides, layers.tenantOverrides, layers.platformDesiredState,
    layers.secretReferences, layers.environment, some layers.compiledDefaults].reduceOption

/-- The highest of some layers that binds a path, or a leaf at one of its
prefixes. -/
def decidingLayer (path : List String) (layers : List JsonObject) : Option JsonObject :=
  layers.find? fun layer => decides path layer.toJson

theorem shapeAt_foldl_deepMerge (base : JsonObject) (patches : List (Option JsonObject))
    (path : List String) :
    shapeAt path (patches.foldl deepMerge base).toJson =
      (decidingLayer path (patches.reverse ++ [some base]).reduceOption).bind
        fun layer => shapeAt path layer.toJson := by
  induction patches using List.reverseRecOn with
  | nil =>
      unfold decidingLayer
      simp only [List.foldl_nil, List.reverse_nil, List.nil_append,
        List.reduceOption_cons_of_some, List.reduceOption_nil, List.find?_cons]
      cases isDecided : decides path base.toJson with
      | true => rfl
      | false => rw [shapeAt_of_undecided isDecided]; rfl
  | append_singleton earlier patch inductionHypothesis =>
      rw [List.foldl_append, List.reverse_append]
      simp only [List.foldl_cons, List.foldl_nil, List.reverse_cons, List.reverse_nil,
        List.nil_append, List.cons_append]
      cases patch with
      | none => exact inductionHypothesis
      | some patch =>
          rw [shapeAt_deepMerge, inductionHypothesis]
          unfold decidingLayer
          rw [List.reduceOption_cons_of_some, List.find?_cons]
          cases decides path patch.toJson with
          | true => rfl
          | false => rfl

/-- At every path the result shows what the last deciding layer shows there; a
path that the result binds is bound by a layer. -/
theorem resolveDesiredState_lastWriterWins (layers : ConfigLayers) (path : List String) :
    shapeAt path (resolveDesiredState layers).toJson =
        (decidingLayer path layers.byPrecedence).bind (fun layer => shapeAt path layer.toJson) ∧
      (binds path (resolveDesiredState layers).toJson →
        ∃ layer ∈ layers.byPrecedence, binds path layer.toJson) := by
  have lastWriter := shapeAt_foldl_deepMerge layers.compiledDefaults
    [layers.environment, layers.secretReferences, layers.platformDesiredState,
      layers.tenantOverrides, layers.workspaceOverrides] path
  refine ⟨lastWriter, ?_⟩
  intro isBound
  have isSeen : (shapeAt path (resolveDesiredState layers).toJson).isSome := by
    rwa [← binds_eq_isSome]
  obtain ⟨shape, isShape⟩ := Option.isSome_iff_exists.mp isSeen
  obtain ⟨layer, isLayer, layerShape⟩ := Option.bind_eq_some_iff.mp (lastWriter.symm.trans isShape)
  refine ⟨layer, List.mem_of_find?_eq_some isLayer, ?_⟩
  rw [binds_eq_isSome, layerShape]
  rfl

end PlatformArchitecture.ConfigEngine
