import PlatformArchitecture.ConfigEngine.ValidState
import PlatformArchitecture.DependencyEngine.Rules

/-!
# The validator and the dependency rules agree

`validatePlatformState` does not call the dependency engine.  Its own checks
cover every rule, so that a valid state has no dependency issue.
-/

namespace PlatformArchitecture.DependencyEngine

open PlatformArchitecture.ConfigEngine
open PlatformArchitecture.Foundations

section Reading

variable {state : Option Json} {name : String} {s : CapabilitySelection}

/-- What a reader of a valid state finds is what the validator has checked. -/
theorem read_selection (valid : ValidState state) (selected : selection state name = some s) :
    ∃ value, readProperty state "platform" = .ok (optionalProperty state "platform") ∧
      readProperty (optionalProperty state "platform") name = .ok (some value) ∧
      readProperty (some value) "enabled" = .ok (some (.bool s.enabled)) ∧
      optionalProperty (some value) "provider" = some (.str s.provider) ∧
      optionalProperty (some value) "fallback" = s.fallback := by
  have platform : truthy (optionalProperty state "platform") := valid.platform
  obtain ⟨⟨fields, isObject⟩, hasEnabled, hasProvider, hasFallback, -⟩ := sel_eq_some selected
  rw [isObject] at hasEnabled hasProvider hasFallback
  refine ⟨.obj fields, ?_, ?_, ?_, hasProvider, hasFallback⟩
  · exact readProperty_of_truthy (truthy_of_property platform) "platform"
  · rw [readProperty_of_truthy platform, isObject]
  · exact congrArg Except.ok hasEnabled

theorem optionalProperty_of_read {value : Json} {key : String} {property : Option Json}
    (read : readProperty (some value) key = .ok property) :
    optionalProperty (some value) key = property := by
  cases value with
  | null => cases read
  | bool | num | str | arr | obj => exact Except.ok.inj read

theorem providerActive_of_valid (valid : ValidState state)
    (selected : selection state name = some s) (provider : String) :
    providerActive state name provider = .ok (uses (some s) provider) := by
  obtain ⟨value, readPlatform, readSelected, readEnabled, hasProvider, -⟩ :=
    read_selection valid selected
  unfold providerActive
  rw [readPlatform, ok_bind, readSelected, ok_bind, readEnabled, ok_bind, hasProvider]
  simp [uses, truthy, Json.truthy, pure, Except.pure]

theorem ragActive_of_valid (valid : ValidState state) :
    ragActive state =
      .ok (truthy (optionalProperty (optionalProperty state "features") "rag")) := by
  have features : truthy (optionalProperty state "features") := valid.features
  unfold ragActive
  rw [readProperty_of_truthy (truthy_of_property features), ok_bind,
    readProperty_of_truthy features, ok_bind]
  rfl

/-- A capability is active when its selection is enabled. -/
theorem active_of_valid (valid : ValidState state)
    (selected : selection state name = some s)
    (isCapability : name ∉ ["postgres", "redis", "rag"]) :
    active state name = .ok s.enabled := by
  obtain ⟨value, readPlatform, readSelected, readEnabled, -, -⟩ := read_selection valid selected
  have hasEnabled := optionalProperty_of_read readEnabled
  simp only [List.mem_cons, List.not_mem_nil, or_false, not_or] at isCapability
  obtain ⟨notPostgres, notRedis, notRag⟩ := isCapability
  unfold active
  rw [if_neg notPostgres, if_neg notRedis, if_neg notRag, readPlatform, ok_bind, readSelected,
    ok_bind, hasEnabled]
  rfl

theorem active_postgres (valid : ValidState state) : active state "postgres" = .ok true := by
  obtain ⟨s, selected, -⟩ := valid.capabilities ("database", ["postgres"]) (by decide)
  have isPostgres := valid.database
  rw [selected] at isPostgres
  unfold active
  rw [if_pos rfl, providerActive_of_valid valid selected, isPostgres]

theorem active_redis (valid : ValidState state)
    (inUse : uses (selection state "cache") "redis") : active state "redis" = .ok true := by
  obtain ⟨s, selected, -⟩ := valid.capabilities ("cache", ["redis", "memory", "none"]) (by decide)
  rw [selected] at inUse
  unfold active
  rw [if_neg (by decide), if_pos rfl, providerActive_of_valid valid selected, inUse]

/-- An enabled capability is active. -/
theorem active_of_enabled (valid : ValidState state) (isEnabled : enabled (selection state name))
    (isCapability : name ∉ ["postgres", "redis", "rag"]) : active state name = .ok true := by
  obtain ⟨s, selected, active⟩ := (Option.any_eq_true _ _).mp isEnabled
  rw [active_of_valid valid selected isCapability, active]

/-- A rule of a capability is selected when its selection is enabled with the
provider of the rule. -/
theorem ruleSelected_of_valid (valid : ValidState state) {rule : DependencyRule}
    (notRag : rule.capability ≠ "rag")
    (selected : selection state rule.capability = some s) :
    ruleSelected state rule =
      .ok (s.enabled && rule.whenProvider.all fun provider => s.provider = provider) := by
  obtain ⟨value, readPlatform, readSelected, readEnabled, hasProvider, -⟩ :=
    read_selection valid selected
  have hasEnabled := optionalProperty_of_read readEnabled
  unfold ruleSelected
  rw [if_neg notRag, readPlatform, ok_bind, readSelected, ok_bind, hasEnabled, hasProvider]
  cases s.enabled with
  | false => rfl
  | true => simp [truthy, Json.truthy, pure, Except.pure]

end Reading

/-! ## No rule finds an issue -/

section Rules

variable {state : Option Json} {rule : DependencyRule}

/-- Nothing is kept by a filter that answers `false` on every item. -/
theorem filterAuxM_eq_ok {keep : String → Except String Bool} {items kept : List String}
    (noneKept : ∀ item ∈ items, keep item = .ok false) :
    items.filterAuxM keep kept = .ok kept := by
  induction items with
  | nil => rfl
  | cons item rest inductionHypothesis =>
      unfold List.filterAuxM
      rw [noneKept item List.mem_cons_self, ok_bind]
      exact inductionHypothesis fun other member =>
        noneKept other (List.mem_cons_of_mem item member)

/-- A rule has no issue when whatever it requires is active once it is
selected. -/
theorem ruleIssues_eq_nil {isSelected : Bool} (selected : ruleSelected state rule = .ok isSelected)
    (satisfied : isSelected = true → ∀ dependency ∈ rule.requires,
      active state dependency = .ok true) :
    ruleIssues state rule = .ok [] := by
  unfold ruleIssues
  rw [selected, ok_bind]
  cases isSelected with
  | false => rfl
  | true =>
      have noneMissing : ∀ dependency ∈ rule.requires,
          (do return !(← active state dependency)) = (.ok false : Except String Bool) := by
        intro dependency member
        rw [satisfied rfl dependency member]
        rfl
      simp only [if_true]
      unfold List.filterM
      rw [filterAuxM_eq_ok noneMissing, ok_bind]
      rfl

theorem mapM_eq_nil {rules : List DependencyRule}
    (noIssue : ∀ rule ∈ rules, ruleIssues state rule = .ok []) :
    rules.mapM (ruleIssues state) = .ok (rules.map fun _ => []) := by
  induction rules with
  | nil => rfl
  | cons rule rest inductionHypothesis =>
      rw [List.mapM_cons, noIssue rule List.mem_cons_self, ok_bind,
        inductionHypothesis fun other member => noIssue other (List.mem_cons_of_mem rule member),
        ok_bind]
      rfl

/-- What a capability with the selected provider depends on is active. -/
theorem active_of_selected (valid : ValidState state) (member : rule ∈ dependencyRules)
    (notRag : rule.capability ≠ "rag") {s : CapabilitySelection}
    (selected : selection state rule.capability = some s) (isEnabled : s.enabled = true)
    (provider : ∀ required ∈ rule.whenProvider, s.provider = required) :
    ∀ dependency ∈ rule.requires, active state dependency = .ok true := by
  have inUse : ∀ required ∈ rule.whenProvider,
      uses (selection state rule.capability) required := by
    intro required isRequired
    rw [selected]
    simp [uses, isEnabled, provider required isRequired]
  simp only [dependencyRules, List.mem_cons, List.not_mem_nil, or_false] at member
  rcases member with rfl | rfl | rfl | rfl | rfl | rfl | rfl | rfl | rfl
  · have redis := active_redis valid (valid.bullmq (inUse "bullmq" rfl))
    simpa using redis
  · have redis := active_redis valid (valid.redisLock (inUse "redis" rfl))
    simpa using redis
  · simpa using active_postgres valid
  · have redis := active_redis valid (valid.redisIdempotency (inUse "redis" rfl))
    simpa using redis
  · simpa using active_postgres valid
  · simpa using active_postgres valid
  · simpa using active_postgres valid
  · simpa using active_postgres valid
  · exact absurd rfl notRag

theorem active_of_rag (valid : ValidState state)
    (rag : truthy (optionalProperty (optionalProperty state "features") "rag")) :
    ∀ dependency ∈ ["ai", "vector_store", "object_storage"],
      active state dependency = .ok true := by
  obtain ⟨ai, vector, storage⟩ := valid.rag rag
  intro dependency member
  simp only [List.mem_cons, List.not_mem_nil, or_false] at member
  rcases member with rfl | rfl | rfl
  · exact active_of_enabled valid ai (by decide)
  · exact active_of_enabled valid vector (by decide)
  · exact active_of_enabled valid storage (by decide)

/-- Every capability of a rule other than `rag` is one that the validator
checks. -/
theorem capability_listed : ∀ rule ∈ dependencyRules, rule.capability ≠ "rag" →
    rule.capability ∈ providers.map Prod.fst := by
  decide

theorem requires_of_rag : ∀ rule ∈ dependencyRules, rule.capability = "rag" →
    rule.requires = ["ai", "vector_store", "object_storage"] := by
  decide

theorem ruleIssues_of_valid (valid : ValidState state) (member : rule ∈ dependencyRules) :
    ruleIssues state rule = .ok [] := by
  by_cases isRag : rule.capability = "rag"
  · have selected : ruleSelected state rule = .ok
        (truthy (optionalProperty (optionalProperty state "features") "rag")) := by
      unfold ruleSelected
      rw [if_pos isRag, ragActive_of_valid valid]
    have requires := requires_of_rag rule member isRag
    apply ruleIssues_eq_nil selected
    intro rag
    rw [requires]
    exact active_of_rag valid rag
  · obtain ⟨entry, isEntry, sameName⟩ := List.mem_map.mp (capability_listed rule member isRag)
    obtain ⟨s, selected, -⟩ := valid.capabilities entry isEntry
    rw [sameName] at selected
    apply ruleIssues_eq_nil (ruleSelected_of_valid valid isRag selected)
    intro chosen
    simp only [Bool.and_eq_true, Option.all_eq_true, decide_eq_true_eq] at chosen
    exact active_of_selected valid member isRag selected chosen.1 chosen.2

end Rules

/-- A state that the gate admits has no dependency issue. -/
theorem noDependencyIssue_of_valid (state : Option Json) (environment : String)
    (valid : (validatePlatformState state environment).valid = true) :
    resolveDependencyIssues state = .ok [] := by
  have validState : ValidState state := validState_of_valid valid
  have noIssue : ∀ rule ∈ dependencyRules, ruleIssues state rule = .ok [] :=
    fun rule member => ruleIssues_of_valid validState member
  unfold resolveDependencyIssues
  rw [mapM_eq_nil noIssue, ok_bind]
  rfl

/-- The local state goes through the gate. -/
theorem noDependencyIssue_of_valid_local :
    (validatePlatformState (some (localState [])) "local").valid = true ∧
      resolveDependencyIssues (some (localState [])) = .ok [] :=
  ⟨by decide, noDependencyIssue_of_valid (some (localState [])) "local" (by decide)⟩

end PlatformArchitecture.DependencyEngine
