import PlatformArchitecture.Foundations.Checks
import PlatformArchitecture.Foundations.Json

/-!
# Validation of a desired state

`validatePlatformState` runs before a desired state is accepted.  It reads a
parsed JSON value of any shape and collects an issue for each thing it finds
wrong.
-/

namespace PlatformArchitecture.ConfigEngine

open PlatformArchitecture.Foundations

/-- The providers of each capability, in the order they are checked. -/
def providers : List (String × List String) :=
  [("database", ["postgres"]),
    ("cache", ["redis", "memory", "none"]),
    ("distributed_lock", ["redis", "postgres"]),
    ("idempotency", ["redis", "postgres"]),
    ("queue", ["sqs", "bullmq", "rabbitmq", "sync"]),
    ("event_bus", ["kafka", "sns-sqs", "outbox"]),
    ("object_storage", ["s3", "minio", "filesystem"]),
    ("vector_store", ["pgvector", "disabled"]),
    ("search", ["opensearch", "postgres"]),
    ("ai", ["local-ai", "bedrock", "external", "disabled"])]

def fallbackProviders : List (String × List String) :=
  [("cache", ["redis", "memory", "none"]),
    ("distributed_lock", ["redis", "postgres"]),
    ("idempotency", ["redis", "postgres"]),
    ("queue", ["sqs", "bullmq", "rabbitmq", "sync"]),
    ("event_bus", ["kafka", "sns-sqs", "outbox"]),
    ("object_storage", ["s3", "minio", "filesystem"]),
    ("search", ["opensearch", "postgres"]),
    ("ai", ["local-ai", "bedrock", "external", "disabled"])]

structure ValidationIssue where
  path : String
  code : String
  message : String
  deriving DecidableEq

structure CapabilitySelection where
  enabled : Bool
  provider : String
  fallback : Option Json
  required : Option Json

/-- A value that has the shape of a capability selection. -/
def sel (v : Option Json) : Option CapabilitySelection :=
  match optionalProperty v "enabled", optionalProperty v "provider" with
  | some (.bool enabled), some (.str provider) =>
      if provider = "" then none
      else
        some
          { enabled, provider
            fallback := optionalProperty v "fallback"
            required := optionalProperty v "required" }
  | _, _ => none

/-- One issue, if its condition holds. -/
def issueIf (condition : Bool) (path code message : String) : List ValidationIssue :=
  if condition then [⟨path, code, message⟩] else []

def isBoolean : Option Json → Bool
  | some (.bool _) => true
  | _ => false

def isLimit : Json → Bool
  | .num (.finite value) => decide (0 ≤ value)
  | _ => false

/-- The checks on one capability. -/
def capabilityIssues (p : Option Json) (name : String) (allowed : List String) :
    List ValidationIssue :=
  match sel (optionalProperty p name) with
  | none =>
      [⟨"platform." ++ name, "MISSING_CAPABILITY",
        "Missing or malformed capability " ++ name⟩]
  | some s =>
      issueIf (s.provider ∉ allowed) ("platform." ++ name ++ ".provider")
          "INVALID_PROVIDER" ("Unsupported provider " ++ s.provider) ++
        issueIf (truthy s.required && !s.enabled) ("platform." ++ name ++ ".enabled")
          "REQUIRED_DISABLED" (name ++ " is required") ++
        (match fallbackProviders.lookup name with
          | none => []
          | some fallbacks =>
              issueIf (s.enabled && !truthy s.fallback)
                  ("platform." ++ name ++ ".fallback") "MISSING_FALLBACK"
                  ("Enabled " ++ name ++ " requires fallback/degraded mode") ++
                issueIf
                  (truthy s.fallback && s.fallback ∉ fallbacks.map fun f => some (.str f))
                  ("platform." ++ name ++ ".fallback") "INVALID_FALLBACK"
                  ("Unsupported fallback " ++ (s.fallback.map Json.text).getD "undefined"))

/-- `s?.enabled && s.provider === provider`. -/
def uses (s : Option CapabilitySelection) (provider : String) : Bool :=
  s.any fun selection => selection.enabled && selection.provider = provider

def enabled (s : Option CapabilitySelection) : Bool :=
  s.any CapabilitySelection.enabled

def validateDesiredState (state : Option Json) : List ValidationIssue :=
  let platform := optionalProperty state "platform"
  let features := optionalProperty state "features"
  if !truthy platform || !truthy features then
    [⟨"$", "INVALID_SHAPE", "Desired state must contain platform and features."⟩]
  else
    let observability := optionalProperty platform "observability"
    let limits := optionalProperty state "limits"
    let db := sel (optionalProperty platform "database")
    let storage := sel (optionalProperty platform "object_storage")
    let ai := sel (optionalProperty platform "ai")
    let vector := sel (optionalProperty platform "vector_store")
    let cache := sel (optionalProperty platform "cache")
    let queue := sel (optionalProperty platform "queue")
    let lock := sel (optionalProperty platform "distributed_lock")
    let idem := sel (optionalProperty platform "idempotency")
    ((spreadable features).flatMap fun flag =>
      issueIf (!isBoolean (some flag.2)) ("features." ++ flag.1) "INVALID_FEATURE_FLAG"
        ("Feature flag " ++ flag.1 ++ " must be boolean")) ++
    (if truthy observability then
      ["metrics", "tracing", "logging"].flatMap fun key =>
        issueIf (!isBoolean (optionalProperty observability key))
          ("platform.observability." ++ key) "INVALID_OBSERVABILITY_FLAG"
          ("Observability flag " ++ key ++ " must be boolean")
    else []) ++
    (if truthy limits then
      (spreadable limits).flatMap fun limit =>
        issueIf (!isLimit limit.2) ("limits." ++ limit.1) "INVALID_LIMIT"
          ("Limit " ++ limit.1 ++ " must be a finite non-negative number")
    else []) ++
    (providers.flatMap fun provider =>
      capabilityIssues platform provider.1 provider.2) ++
    issueIf (!uses db "postgres") "platform.database" "LOCKED_DATABASE"
      "Primary PostgreSQL database is required." ++
    issueIf (!enabled storage) "platform.object_storage.enabled"
      "CORE_CAPABILITY_DISABLED" "Object storage must be active." ++
    issueIf (!truthy (optionalProperty observability "logging"))
      "platform.observability.logging" "LOCKED_LOGGING"
      "Structured logging cannot be disabled." ++
    issueIf
      (truthy (optionalProperty features "rag") &&
        (!enabled ai || !enabled vector || !enabled storage))
      "features.rag" "RAG_DEPENDENCY" "RAG requires AI, vector_store and object_storage." ++
    issueIf (uses queue "bullmq" && !uses cache "redis") "platform.queue.provider"
      "BULLMQ_REQUIRES_REDIS" "BullMQ requires Redis." ++
    issueIf (uses lock "redis" && !uses cache "redis")
      "platform.distributed_lock.provider" "REDIS_LOCK_REQUIRES_REDIS"
      "Redis lock provider requires Redis." ++
    issueIf (uses idem "redis" && !uses cache "redis") "platform.idempotency.provider"
      "REDIS_IDEMPOTENCY_REQUIRES_REDIS" "Redis idempotency provider requires Redis."

/-- `value.key`, which throws on `undefined` and `null`. -/
def readProperty (value : Option Json) (key : String) : Except String (Option Json) :=
  match value with
  | none => .error ("Cannot read properties of undefined (reading '" ++ key ++ "')")
  | some .null => .error ("Cannot read properties of null (reading '" ++ key ++ "')")
  | some value => .ok (value.property key)

def assertLockedState (state : Option Json) (environment : String) :
    Except String Unit :=
  if environment ≠ "production" then
    .ok ()
  else do
    let platform ← readProperty state "platform"
    let database ← readProperty platform "database"
    let databaseEnabled ← readProperty database "enabled"
    let observability ← readProperty platform "observability"
    let logging ← readProperty observability "logging"
    let violations :=
      (if truthy databaseEnabled then [] else ["primary_persistent_datastore"]) ++
      (if truthy logging then [] else ["structured_logging"])
    throwIf (violations ≠ [])
      ("Locked production capabilities disabled: " ++ ", ".intercalate violations)

structure FullValidationResult where
  valid : Bool
  schemaIssues : List ValidationIssue
  dependencyIssues : List ValidationIssue

def validatePlatformState (state : Option Json) (environment : String) :
    FullValidationResult :=
  let lockedIssues : List ValidationIssue :=
    match assertLockedState state environment with
    | .ok _ => []
    | .error message => [⟨"platform", "LOCKED_POLICY", message⟩]
  let schemaIssues := validateDesiredState state ++ lockedIssues
  { valid := schemaIssues.isEmpty, schemaIssues, dependencyIssues := [] }

end PlatformArchitecture.ConfigEngine
