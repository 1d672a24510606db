import PlatformArchitecture.ConfigEngine.Validate

/-!
# Dependencies of capabilities

The rules of the dependency engine name what a capability needs, possibly only
with one of its providers.  A state is read as it comes: a missing `platform`
or `features` throws.
-/

namespace PlatformArchitecture.DependencyEngine

open PlatformArchitecture.ConfigEngine
open PlatformArchitecture.Foundations

structure DependencyIssue where
  code : String
  capability : String
  dependency : String
  message : String
  migrations : List String
  deriving DecidableEq

structure DependencyRule where
  capability : String
  whenProvider : Option String
  requires : List String
  migrationOptions : Option (List String)
  deriving DecidableEq

def dependencyRules : List DependencyRule :=
  [⟨"queue", some "bullmq", ["redis"], some ["sqs", "rabbitmq", "sync"]⟩,
    ⟨"distributed_lock", some "redis", ["redis"], some ["postgres"]⟩,
    ⟨"distributed_lock", some "postgres", ["postgres"], none⟩,
    ⟨"idempotency", some "redis", ["redis"], some ["postgres"]⟩,
    ⟨"idempotency", some "postgres", ["postgres"], none⟩,
    ⟨"event_bus", some "outbox", ["postgres"], some ["sns-sqs", "kafka"]⟩,
    ⟨"search", some "postgres", ["postgres"], some ["opensearch"]⟩,
    ⟨"vector_store", some "pgvector", ["postgres"], some ["disable-rag"]⟩,
    ⟨"rag", none, ["ai", "vector_store", "object_storage"], some ["disable-rag"]⟩]

/-- `state.platform.name.enabled && state.platform.name.provider === provider`. -/
def providerActive (state : Option Json) (name provider : String) : Except String Bool := do
  let platform ← readProperty state "platform"
  let selected ← readProperty platform name
  let isEnabled ← readProperty selected "enabled"
  return truthy isEnabled && optionalProperty selected "provider" = some (.str provider)

/-- `Boolean(state.features.rag)`. -/
def ragActive (state : Option Json) : Except String Bool := do
  let features ← readProperty state "features"
  let rag ← readProperty features "rag"
  return truthy rag

def active (state : Option Json) (dependency : String) : Except String Bool :=
  if dependency = "postgres" then
    providerActive state "database" "postgres"
  else if dependency = "redis" then
    providerActive state "cache" "redis"
  else if dependency = "rag" then
    ragActive state
  else do
    let platform ← readProperty state "platform"
    let value ← readProperty platform dependency
    return truthy (optionalProperty value "enabled")

def ruleSelected (state : Option Json) (rule : DependencyRule) : Except String Bool :=
  if rule.capability = "rag" then
    ragActive state
  else do
    let platform ← readProperty state "platform"
    let selected ← readProperty platform rule.capability
    if truthy (optionalProperty selected "enabled") then
      return rule.whenProvider.all fun provider =>
        optionalProperty selected "provider" = some (.str provider)
    else
      return false

def dependencyIssue (rule : DependencyRule) (dependency : String) : DependencyIssue where
  code := "DEPENDENCY_UNAVAILABLE"
  capability := rule.capability
  dependency := dependency
  message :=
    rule.capability ++ (rule.whenProvider.map fun provider => "/" ++ provider).getD "" ++
      " requires " ++ dependency
  migrations := rule.migrationOptions.getD []

/-- The dependencies of a rule that are not active, in order. -/
def ruleIssues (state : Option Json) (rule : DependencyRule) :
    Except String (List DependencyIssue) := do
  if ← ruleSelected state rule then
    let missing ← rule.requires.filterM fun dependency =>
      return !(← active state dependency)
    return missing.map (dependencyIssue rule)
  else
    return []

def resolveDependencyIssues (state : Option Json) : Except String (List DependencyIssue) :=
  return (← dependencyRules.mapM (ruleIssues state)).flatten

/-- What the rules attach to a capability with a provider. -/
def dependenciesOf (capability provider : String) : List String :=
  (dependencyRules.filter fun rule =>
    rule.capability = capability ∧ ∀ required ∈ rule.whenProvider, required = provider).flatMap
    DependencyRule.requires

end PlatformArchitecture.DependencyEngine
