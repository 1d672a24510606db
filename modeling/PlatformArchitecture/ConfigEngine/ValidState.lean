import PlatformArchitecture.ConfigEngine.Validate

/-!
# What a valid desired state satisfies

The validator collects issues; a state without issues is described by one
structure, with a field for each group of checks.
-/

namespace PlatformArchitecture.ConfigEngine

open PlatformArchitecture.Foundations

/-- A capability selection as the cross-checks of the validator read it. -/
def selection (state : Option Json) (name : String) : Option CapabilitySelection :=
  sel (optionalProperty (optionalProperty state "platform") name)

/-- The selection that `capabilityIssues` finds nothing wrong with. -/
structure SelectionChecked (name : String) (allowed : List String)
    (s : CapabilitySelection) : Prop where
  provider : s.provider ∈ allowed
  required : truthy s.required → s.enabled
  fallback : ∀ fallbacks, fallbackProviders.lookup name = some fallbacks →
    (s.enabled → truthy s.fallback) ∧
      (truthy s.fallback → ∃ f ∈ fallbacks, s.fallback = some (.str f))

/-- A selection is an object with these properties. -/
theorem sel_eq_some {v : Option Json} {s : CapabilitySelection} (selected : sel v = some s) :
    (∃ fields, v = some (.obj fields)) ∧
      optionalProperty v "enabled" = some (.bool s.enabled) ∧
      optionalProperty v "provider" = some (.str s.provider) ∧
      optionalProperty v "fallback" = s.fallback ∧
      optionalProperty v "required" = s.required := by
  unfold sel at selected
  split at selected
  · next isEnabled provider hasEnabled hasProvider =>
    split at selected
    · cases selected
    · cases selected
      refine ⟨?_, hasEnabled, hasProvider, rfl, rfl⟩
      obtain ⟨value, isValue, property⟩ := Option.bind_eq_some_iff.mp hasEnabled
      cases value with
      | obj fields => exact ⟨fields, isValue⟩
      | null | bool | num | str | arr => cases property
  · cases selected

theorem truthy_of_property {value : Option Json} {key : String}
    (given : truthy (optionalProperty value key)) : truthy value := by
  cases value with
  | none => cases given
  | some value =>
      cases value with
      | obj fields => rfl
      | null | bool | num | str | arr => cases given

/-- Reading a property of a value that counts as true throws nothing. -/
theorem readProperty_of_truthy {value : Option Json} (given : truthy value) (key : String) :
    readProperty value key = .ok (optionalProperty value key) := by
  cases value with
  | none => cases given
  | some value =>
      cases value with
      | null => cases given
      | bool | num | str | arr | obj => rfl

@[simp]
theorem issueIf_eq_nil {condition : Bool} {path code message : String} :
    issueIf condition path code message = [] ↔ condition = false := by
  cases condition with
  | false => simp [issueIf]
  | true => simp [issueIf]

theorem capabilityIssues_eq_nil {p : Option Json} {name : String} {allowed : List String} :
    capabilityIssues p name allowed = [] ↔
      ∃ s, sel (optionalProperty p name) = some s ∧ SelectionChecked name allowed s := by
  unfold capabilityIssues
  cases selected : sel (optionalProperty p name) with
  | none => simp
  | some s =>
      simp only [List.append_eq_nil_iff, issueIf_eq_nil, Option.some.injEq,
        exists_eq_left']
      constructor
      · rintro ⟨⟨supported, active⟩, fallback⟩
        refine ⟨by simpa using supported, by simpa using active, ?_⟩
        intro fallbacks listed
        simp only [listed, List.append_eq_nil_iff, issueIf_eq_nil] at fallback
        refine ⟨by simpa using fallback.1, ?_⟩
        intro given
        have found := fallback.2
        simp only [given, Bool.true_and, decide_eq_false_iff_not, not_not, List.mem_map]
          at found
        obtain ⟨f, member, same⟩ := found
        exact ⟨f, member, same.symm⟩
      · intro checked
        refine ⟨⟨by simpa using checked.provider, by simpa using checked.required⟩, ?_⟩
        cases listed : fallbackProviders.lookup name with
        | none => rfl
        | some fallbacks =>
            obtain ⟨given, known⟩ := checked.fallback fallbacks listed
            simp only [List.append_eq_nil_iff, issueIf_eq_nil]
            refine ⟨by simpa using given, ?_⟩
            cases isGiven : truthy s.fallback with
            | false => rfl
            | true =>
                obtain ⟨f, member, same⟩ := known isGiven
                simp only [Bool.true_and, decide_eq_false_iff_not, not_not]
                exact List.mem_map.mpr ⟨f, member, same.symm⟩

/-- A state that the validator finds nothing wrong with. -/
structure ValidState (state : Option Json) : Prop where
  platform : truthy (optionalProperty state "platform")
  features : truthy (optionalProperty state "features")
  flags : ∀ flag ∈ spreadable (optionalProperty state "features"), isBoolean (some flag.2)
  observability :
    truthy (optionalProperty (optionalProperty state "platform") "observability") →
      ∀ key ∈ ["metrics", "tracing", "logging"],
        isBoolean (optionalProperty
          (optionalProperty (optionalProperty state "platform") "observability") key)
  limits : truthy (optionalProperty state "limits") →
    ∀ limit ∈ spreadable (optionalProperty state "limits"), isLimit limit.2
  capabilities : ∀ provider ∈ providers, ∃ s,
    selection state provider.1 = some s ∧ SelectionChecked provider.1 provider.2 s
  database : uses (selection state "database") "postgres"
  storage : enabled (selection state "object_storage")
  logging : truthy (optionalProperty
    (optionalProperty (optionalProperty state "platform") "observability") "logging")
  rag : truthy (optionalProperty (optionalProperty state "features") "rag") →
    enabled (selection state "ai") ∧ enabled (selection state "vector_store") ∧
      enabled (selection state "object_storage")
  bullmq : uses (selection state "queue") "bullmq" → uses (selection state "cache") "redis"
  redisLock : uses (selection state "distributed_lock") "redis" →
    uses (selection state "cache") "redis"
  redisIdempotency : uses (selection state "idempotency") "redis" →
    uses (selection state "cache") "redis"

/-- The validator reports nothing exactly on the states described above. -/
theorem validateDesiredState_eq_nil {state : Option Json} :
    validateDesiredState state = [] ↔ ValidState state := by
  have folded : ∀ name,
      sel (optionalProperty (optionalProperty state "platform") name) = selection state name :=
    fun _ => rfl
  unfold validateDesiredState
  dsimp only
  simp only [folded]
  constructor
  · intro noIssue
    split at noIssue
    · cases noIssue
    · next shape =>
      simp only [Bool.or_eq_true, Bool.not_eq_true', not_or, Bool.not_eq_false] at shape
      simp only [List.append_eq_nil_iff, issueIf_eq_nil, List.flatMap_eq_nil_iff] at noIssue
      obtain ⟨⟨⟨⟨⟨⟨⟨⟨⟨⟨flags, observability⟩, limits⟩, capabilities⟩, database⟩, storage⟩,
        logging⟩, rag⟩, bullmq⟩, redisLock⟩, redisIdempotency⟩ := noIssue
      constructor
      · exact shape.1
      · exact shape.2
      · simpa using flags
      · intro given
        simpa [given] using observability
      · intro given
        rw [if_pos given] at limits
        simpa using limits
      · intro provider member
        exact capabilityIssues_eq_nil.mp (capabilities provider member)
      · simpa using database
      · simpa using storage
      · simpa using logging
      · intro required
        simpa [required, and_assoc] using rag
      · simpa using bullmq
      · simpa using redisLock
      · simpa using redisIdempotency
  · intro valid
    have shape : ¬ ((!truthy (optionalProperty state "platform") ||
        !truthy (optionalProperty state "features")) = true) := by
      simp [valid.platform, valid.features]
    rw [if_neg shape]
    simp only [List.append_eq_nil_iff, issueIf_eq_nil, List.flatMap_eq_nil_iff]
    refine ⟨⟨⟨⟨⟨⟨⟨⟨⟨⟨?_, ?_⟩, ?_⟩, ?_⟩, ?_⟩, ?_⟩, ?_⟩, ?_⟩, ?_⟩, ?_⟩, ?_⟩
    · simpa using valid.flags
    · split
      · next given => simpa using valid.observability given
      · rfl
    · split
      · next given =>
        rw [List.flatMap_eq_nil_iff]
        simpa using valid.limits given
      · rfl
    · intro provider member
      exact capabilityIssues_eq_nil.mpr (valid.capabilities provider member)
    · simpa using valid.database
    · simpa using valid.storage
    · simpa using valid.logging
    · simpa [and_assoc] using valid.rag
    · simpa using valid.bullmq
    · simpa using valid.redisLock
    · simpa using valid.redisIdempotency

theorem validState_of_valid {state : Option Json} {environment : String}
    (valid : (validatePlatformState state environment).valid = true) : ValidState state := by
  apply validateDesiredState_eq_nil.mp
  have noIssue := List.isEmpty_iff.mp valid
  exact (List.append_eq_nil_iff.mp noIssue).1

/-- The platform of the local profile. -/
def localPlatform : JsObject :=
  [("profile", .str "local"),
    ("database", .obj [("enabled", .bool true), ("provider", .str "postgres"),
      ("required", .bool true)]),
    ("cache", .obj [("enabled", .bool true), ("provider", .str "memory"),
      ("fallback", .str "none")]),
    ("distributed_lock", .obj [("enabled", .bool true), ("provider", .str "postgres"),
      ("fallback", .str "postgres")]),
    ("idempotency", .obj [("enabled", .bool true), ("provider", .str "postgres"),
      ("fallback", .str "postgres"), ("required", .bool true)]),
    ("queue", .obj [("enabled", .bool true), ("provider", .str "sync"),
      ("fallback", .str "sync")]),
    ("event_bus", .obj [("enabled", .bool true), ("provider", .str "outbox"),
      ("fallback", .str "outbox")]),
    ("object_storage", .obj [("enabled", .bool true), ("provider", .str "filesystem"),
      ("fallback", .str "filesystem"), ("required", .bool true)]),
    ("vector_store", .obj [("enabled", .bool false), ("provider", .str "disabled")]),
    ("search", .obj [("enabled", .bool true), ("provider", .str "postgres"),
      ("fallback", .str "postgres")]),
    ("ai", .obj [("enabled", .bool false), ("provider", .str "disabled"),
      ("fallback", .str "disabled")]),
    ("observability", .obj [("metrics", .bool true), ("tracing", .bool false),
      ("logging", .bool true)])]

/-- The local desired state with some properties of its platform changed. -/
def localState (changes : JsObject) : Json :=
  .obj [("platform", .obj (spread localPlatform changes)),
    ("features", .obj [("rag", .bool false)]),
    ("limits", .obj [("apiRequestsPerMinute", .num (.finite 120)),
      ("uploadMegabytes", .num (.finite 25)),
      ("aiTokensPerRequest", .num (.finite 4096))])]

example : (validatePlatformState (some (localState [])) "local").valid = true := by
  decide

end PlatformArchitecture.ConfigEngine
