import PlatformArchitecture.DependencyEngine.Agreement

/-!
# Resolution of capabilities

A `CapabilityContainer` holds an accepted desired state and resolves each
capability to its provider, or to its fallback when the capability is disabled
or the provider fails.
-/

namespace PlatformArchitecture.PlatformSdk

open PlatformArchitecture.ConfigEngine
open PlatformArchitecture.DependencyEngine
open PlatformArchitecture.Foundations

inductive HealthStatus where
  | healthy
  | degraded
  | unhealthy
  deriving DecidableEq

/-- A port that a factory has built, with the outcome of its health check. -/
structure HealthAware where
  health : Except String HealthStatus

/-- The capabilities of `CapabilityPortMap`. -/
inductive ResolvableCapability where
  | cache
  | distributedLock
  | idempotency
  | queue
  | eventBus
  | objectStorage
  | search
  | ai
  deriving DecidableEq

def ResolvableCapability.name : ResolvableCapability → String
  | cache => "cache"
  | distributedLock => "distributed_lock"
  | idempotency => "idempotency"
  | queue => "queue"
  | eventBus => "event_bus"
  | objectStorage => "object_storage"
  | search => "search"
  | ai => "ai"

/-- The registered factories by capability and provider.  A factory builds a
port or throws. -/
structure ProviderRegistry where
  providers : String → String → Option (Except String HealthAware)

namespace ProviderRegistry

def resolve (registry : ProviderRegistry) (capability provider : String) :
    Except String HealthAware :=
  match registry.providers capability provider with
  | some factory => factory
  | none => .error ("Unknown provider: " ++ capability ++ "/" ++ provider)

end ProviderRegistry

structure ResolvedCapability where
  provider : String
  value : HealthAware
  degraded : Bool

/-- A container is built over a state that `assertPlatformState` lets through. -/
structure CapabilityContainer where
  registry : ProviderRegistry
  desiredState : Option Json
  environment : String
  accepted : (validatePlatformState desiredState environment).valid = true

namespace CapabilityContainer

/-- `resolveProvider`: no factory is registered under a name that is not a
string. -/
def resolveProvider (container : CapabilityContainer) (capability : ResolvableCapability)
    (provider : Option Json) (degraded : Bool) : Except String ResolvedCapability :=
  match provider with
  | some (.str provider) => do
      let value ← container.registry.resolve capability.name provider
      return { provider, value, degraded }
  | other =>
      .error ("Unknown provider: " ++ capability.name ++ "/" ++
        (other.map Json.text).getD "undefined")

/-- The body of the `try`: `none` is an unhealthy provider that has a
fallback. -/
def resolvePrimary (container : CapabilityContainer) (capability : ResolvableCapability)
    (provider : Option Json) (noFallback : Bool) :
    Except String (Option ResolvedCapability) := do
  let primary ← container.resolveProvider capability provider false
  let health ← primary.value.health
  if health ≠ .unhealthy then
    return some primary
  else
    throwIf noFallback
      ("CAPABILITY_UNHEALTHY:" ++ capability.name ++ "/" ++
        (provider.map Json.text).getD "undefined")
    return none

def resolve (container : CapabilityContainer) (capability : ResolvableCapability) :
    Except String ResolvedCapability := do
  let platform ← readProperty container.desiredState "platform"
  let selection ← readProperty platform capability.name
  let isEnabled ← readProperty selection "enabled"
  let provider := optionalProperty selection "provider"
  let fallback := optionalProperty selection "fallback"
  if truthy isEnabled then
    let noFallback := !truthy fallback || fallback = provider
    match container.resolvePrimary capability provider noFallback with
    | .ok (some primary) => return primary
    | .ok none => container.resolveProvider capability fallback true
    | .error error =>
        if noFallback then throw error
        else container.resolveProvider capability fallback true
  else
    throwIf (!truthy fallback) ("CAPABILITY_UNAVAILABLE:" ++ capability.name)
    container.resolveProvider capability fallback true

def withRegistry (container : CapabilityContainer) (registry : ProviderRegistry) :
    CapabilityContainer :=
  { container with registry }

end CapabilityContainer

/-! ## What a capability can resolve to -/

section Outcomes

variable {container : CapabilityContainer} {capability : ResolvableCapability}
  {s : CapabilitySelection} {resolved : ResolvedCapability}

theorem provider_of_resolveProvider {provider : Option Json} {degraded : Bool}
    (isResolved : container.resolveProvider capability provider degraded = .ok resolved) :
    provider = some (.str resolved.provider) := by
  unfold CapabilityContainer.resolveProvider at isResolved
  split at isResolved
  · next provider =>
    obtain ⟨value, -, returned⟩ := bind_eq_ok.mp isResolved
    cases returned
    rfl
  · cases isResolved

theorem provider_of_resolvePrimary {provider : Option Json} {noFallback : Bool}
    (isResolved : container.resolvePrimary capability provider noFallback =
      .ok (some resolved)) :
    provider = some (.str resolved.provider) := by
  unfold CapabilityContainer.resolvePrimary at isResolved
  obtain ⟨primary, isPrimary, checked⟩ := bind_eq_ok.mp isResolved
  obtain ⟨health, -, returned⟩ := bind_eq_ok.mp checked
  split at returned
  · cases returned
    exact provider_of_resolveProvider isPrimary
  · obtain ⟨-, -, returned⟩ := bind_eq_ok.mp returned
    cases returned

/-- Every capability that can be resolved is one that the validator checks. -/
theorem name_listed : capability.name ∈ providers.map Prod.fst := by
  cases capability <;> decide

theorem selection_of_container (container : CapabilityContainer)
    (capability : ResolvableCapability) :
    ∃ s, selection container.desiredState capability.name = some s := by
  have valid := validState_of_valid container.accepted
  obtain ⟨entry, isEntry, sameName⟩ := List.mem_map.mp (@name_listed capability)
  obtain ⟨s, selected, -⟩ := valid.capabilities entry isEntry
  exact ⟨s, sameName ▸ selected⟩

/-- Resolution over the selection of the capability. -/
theorem resolve_eq (selected : selection container.desiredState capability.name = some s) :
    container.resolve capability =
      if s.enabled then
        match container.resolvePrimary capability (some (.str s.provider))
            (!truthy s.fallback || s.fallback = some (.str s.provider)) with
        | .ok (some primary) => .ok primary
        | .ok none => container.resolveProvider capability s.fallback true
        | .error error =>
            if !truthy s.fallback || s.fallback = some (.str s.provider) then .error error
            else container.resolveProvider capability s.fallback true
      else if truthy s.fallback then container.resolveProvider capability s.fallback true
      else .error ("CAPABILITY_UNAVAILABLE:" ++ capability.name) := by
  have valid := validState_of_valid container.accepted
  obtain ⟨value, readPlatform, readSelected, readEnabled, hasProvider, hasFallback⟩ :=
    read_selection valid selected
  unfold CapabilityContainer.resolve
  rw [readPlatform, ok_bind, readSelected, ok_bind, readEnabled, ok_bind, hasProvider,
    hasFallback]
  have isBool : truthy (some (.bool s.enabled)) = s.enabled := rfl
  dsimp only
  rw [isBool]
  cases s.enabled with
  | true => rfl
  | false =>
      simp only [Bool.false_eq_true, if_false]
      by_cases given : truthy s.fallback
      · rw [throwIf_of_not (by simpa using given), if_pos given]
        rfl
      · rw [throwIf_of_pos (by simpa using given), if_neg given]
        rfl

/-- A resolved provider is the selected one of an enabled capability, or the
fallback. -/
theorem provider_of_resolve (selected : selection container.desiredState capability.name = some s)
    (isResolved : container.resolve capability = .ok resolved) :
    (s.enabled = true ∧ s.provider = resolved.provider) ∨
      s.fallback = some (.str resolved.provider) := by
  rw [resolve_eq selected] at isResolved
  split at isResolved
  · next isEnabled =>
    split at isResolved
    · next primary isPrimary =>
      cases isResolved
      have sameProvider := provider_of_resolvePrimary isPrimary
      simp only [Option.some.injEq, Json.str.injEq] at sameProvider
      exact Or.inl ⟨isEnabled, sameProvider⟩
    · exact Or.inr (provider_of_resolveProvider isResolved)
    · split at isResolved
      · cases isResolved
      · exact Or.inr (provider_of_resolveProvider isResolved)
  · split at isResolved
    · exact Or.inr (provider_of_resolveProvider isResolved)
    · cases isResolved

end Outcomes

/-! ## Dependencies of the resolved provider -/

/-- Whatever a capability with its fallback needs of Redis is there: the cache
is enabled with Redis. -/
def FallbackSupported (state : Option Json) (capability : ResolvableCapability) : Prop :=
  ∀ fallback,
    optionalProperty
      (optionalProperty (optionalProperty state "platform") capability.name) "fallback" =
        some (.str fallback) →
    "redis" ∈ dependenciesOf capability.name fallback →
    uses (selection state "cache") "redis"

section Dependencies

variable {state : Option Json} {s : CapabilitySelection}

theorem mem_dependenciesOf {capability provider dependency : String} :
    dependency ∈ dependenciesOf capability provider ↔
      ∃ rule ∈ dependencyRules, rule.capability = capability ∧
        (∀ required ∈ rule.whenProvider, required = provider) ∧
        dependency ∈ rule.requires := by
  simp [dependenciesOf, and_assoc]

theorem name_ne_rag (capability : ResolvableCapability) : capability.name ≠ "rag" := by
  cases capability <;> decide

/-- The rules of the resolvable capabilities require nothing but the
database and Redis. -/
theorem requires_store : ∀ rule ∈ dependencyRules, rule.capability ≠ "rag" →
    ∀ dependency ∈ rule.requires, dependency = "postgres" ∨ dependency = "redis" := by
  decide

theorem active_of_primary (valid : ValidState state) (capability : ResolvableCapability)
    (selected : selection state capability.name = some s) (isEnabled : s.enabled = true) :
    ∀ dependency ∈ dependenciesOf capability.name s.provider,
      active state dependency = .ok true := by
  intro dependency member
  obtain ⟨rule, isRule, sameName, provider, required⟩ := mem_dependenciesOf.mp member
  rw [← sameName] at selected
  exact active_of_selected valid isRule (sameName ▸ name_ne_rag capability) selected isEnabled
    (fun required isRequired => (provider required isRequired).symm) dependency required

theorem uses_of_active_redis (valid : ValidState state)
    (isActive : active state "redis" = .ok true) : uses (selection state "cache") "redis" := by
  obtain ⟨cache, selected, -⟩ :=
    valid.capabilities ("cache", ["redis", "memory", "none"]) (by decide)
  unfold active at isActive
  rw [if_neg (by decide), if_pos rfl, providerActive_of_valid valid selected] at isActive
  rw [selected]
  exact Except.ok.inj isActive

theorem active_of_fallback (valid : ValidState state) {capability : ResolvableCapability}
    {fallback : String}
    (supported : "redis" ∈ dependenciesOf capability.name fallback →
      uses (selection state "cache") "redis") :
    ∀ dependency ∈ dependenciesOf capability.name fallback,
      active state dependency = .ok true := by
  intro dependency member
  obtain ⟨rule, isRule, sameName, -, required⟩ := mem_dependenciesOf.mp member
  have store := requires_store rule isRule (sameName ▸ name_ne_rag capability)
    dependency required
  cases store with
  | inl isPostgres =>
      rw [isPostgres]
      exact active_postgres valid
  | inr isRedis =>
      rw [isRedis] at member ⊢
      exact active_redis valid (supported member)

end Dependencies

/-- A registry that knows one provider, with a healthy port. -/
def onlyProvider (provider : String) : ProviderRegistry where
  providers _ other := if other = provider then some (.ok ⟨.ok .healthy⟩) else none

/-- Where only the fallback is registered, it is what a capability resolves
to. -/
theorem resolve_onlyProvider {container : CapabilityContainer}
    {capability : ResolvableCapability} {s : CapabilitySelection} {fallback : String}
    (selected : selection container.desiredState capability.name = some s)
    (hasFallback : s.fallback = some (.str fallback)) (given : fallback ≠ "")
    (isDegraded : s.enabled = true → fallback ≠ s.provider) :
    (container.withRegistry (onlyProvider fallback)).resolve capability =
      .ok ⟨fallback, ⟨.ok .healthy⟩, true⟩ := by
  have isTruthy : truthy s.fallback := by
    rw [hasFallback]
    simpa [truthy, Json.truthy] using given
  have toFallback :
      (container.withRegistry (onlyProvider fallback)).resolveProvider capability s.fallback
        true = .ok ⟨fallback, ⟨.ok .healthy⟩, true⟩ := by
    rw [hasFallback]
    simp [CapabilityContainer.resolveProvider, CapabilityContainer.withRegistry,
      ProviderRegistry.resolve, onlyProvider, pure, Except.pure]
  rw [@resolve_eq (container.withRegistry (onlyProvider fallback)) _ _ selected]
  cases isEnabled : s.enabled with
  | false => rw [if_neg Bool.false_ne_true, if_pos isTruthy, toFallback]
  | true =>
      have different := isDegraded isEnabled
      have noPrimary : ∃ error,
          (container.withRegistry (onlyProvider fallback)).resolvePrimary capability
            (some (.str s.provider)) false = .error error := by
        refine ⟨"Unknown provider: " ++ capability.name ++ "/" ++ s.provider, ?_⟩
        simp [CapabilityContainer.resolvePrimary, CapabilityContainer.resolveProvider,
          CapabilityContainer.withRegistry, ProviderRegistry.resolve, onlyProvider,
          Ne.symm different]
      have hasOther : (!truthy s.fallback || decide (s.fallback = some (.str s.provider))) =
          false := by
        rw [isTruthy, hasFallback]
        simpa using different
      obtain ⟨error, failed⟩ := noPrimary
      rw [if_pos rfl, hasOther, failed]
      exact toFallback

/-- Every provider that a capability of an accepted state can resolve to finds
its dependencies active exactly when what the fallback needs of Redis is
there. -/
theorem dependenciesActive_iff_fallbackSupported (container : CapabilityContainer)
    (capability : ResolvableCapability) :
    (∀ registry resolved,
      (container.withRegistry registry).resolve capability = .ok resolved →
        ∀ dependency ∈ dependenciesOf capability.name resolved.provider,
          active container.desiredState dependency = .ok true) ↔
      FallbackSupported container.desiredState capability := by
  have valid := validState_of_valid container.accepted
  obtain ⟨s, selected⟩ := selection_of_container container capability
  obtain ⟨-, -, -, hasFallback, -⟩ := sel_eq_some selected
  constructor
  · intro allActive fallback isFallback needsRedis
    rw [hasFallback] at isFallback
    have given : fallback ≠ "" := by
      intro isEmpty
      subst isEmpty
      cases capability <;> revert needsRedis <;> decide
    by_cases isPrimary : s.enabled = true ∧ fallback = s.provider
    · obtain ⟨isEnabled, sameProvider⟩ := isPrimary
      rw [sameProvider] at needsRedis
      exact uses_of_active_redis valid
        (active_of_primary valid capability selected isEnabled "redis" needsRedis)
    · have isDegraded : s.enabled = true → fallback ≠ s.provider :=
        fun isEnabled sameProvider => isPrimary ⟨isEnabled, sameProvider⟩
      have isResolved := resolve_onlyProvider selected isFallback given isDegraded
      exact uses_of_active_redis valid
        (allActive (onlyProvider fallback) _ isResolved "redis" needsRedis)
  · intro supported registry resolved isResolved
    have outcome := @provider_of_resolve (container.withRegistry registry) _ _ _ selected
      isResolved
    cases outcome with
    | inl primary =>
        obtain ⟨isEnabled, sameProvider⟩ := primary
        rw [← sameProvider]
        exact active_of_primary valid capability selected isEnabled
    | inr isFallback =>
        exact active_of_fallback valid (supported resolved.provider (hasFallback.trans isFallback))

/-- BullMQ as a fallback of SQS is accepted over a cache in memory, and the queue
resolves to it when SQS is down. -/
theorem bullmqFallbackWithoutRedis :
    ¬ ∀ (container : CapabilityContainer) (capability : ResolvableCapability)
      (resolved : ResolvedCapability), container.resolve capability = .ok resolved →
        ∀ dependency ∈ dependenciesOf capability.name resolved.provider,
          active container.desiredState dependency = .ok true := by
  intro allActive
  let container : CapabilityContainer :=
    { registry := onlyProvider "bullmq"
      desiredState := some (localState
        [("queue", .obj [("enabled", .bool true), ("provider", .str "sqs"),
          ("fallback", .str "bullmq")])])
      environment := "local"
      accepted := by decide }
  have isResolved : container.resolve .queue = .ok ⟨"bullmq", ⟨.ok .healthy⟩, true⟩ := by
    rfl
  have isActive := allActive container .queue _ isResolved "redis" (by decide)
  have inactive : active container.desiredState "redis" = .ok false := by
    rfl
  rw [inactive] at isActive
  cases isActive

end PlatformArchitecture.PlatformSdk
