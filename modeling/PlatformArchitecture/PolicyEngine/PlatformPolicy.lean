import Mathlib.Data.List.Basic

/-!
# The platform policy

Which capabilities are locked in production, under any spelling or alias, and
what a platform operation needs to be allowed.
-/

namespace PlatformArchitecture.PolicyEngine

/-- The white space of `trim` and `\s`. -/
def isSpace (c : Char) : Bool :=
  c.toNat ∈
      [0x9, 0xA, 0xB, 0xC, 0xD, 0x20, 0xA0, 0x1680, 0x2028, 0x2029, 0x202F, 0x205F,
        0x3000, 0xFEFF] ||
    decide (0x2000 ≤ c.toNat ∧ c.toNat ≤ 0x200A)

def trim (chars : List Char) : List Char :=
  ((chars.dropWhile isSpace).reverse.dropWhile isSpace).reverse

/-- Lower case as far as it can produce an ASCII letter: the Kelvin sign and
the dotted capital I are the only other letters that do. -/
def toLowerCase (c : Char) : List Char :=
  if c.toNat = 0x212A then ['k']
  else if c.toNat = 0x130 then ['i', Char.ofNat 0x307]
  else [c.toLower]

def isSeparator (c : Char) : Bool :=
  isSpace c || c = '.' || c = '-'

/-- `replace(/[\s.-]+/g, '_')`. -/
def replaceRuns : Bool → List Char → List Char
  | _, [] => []
  | inRun, c :: rest =>
      if isSeparator c then
        if inRun then replaceRuns true rest else '_' :: replaceRuns true rest
      else
        c :: replaceRuns false rest

def canonicalCapabilityName (v : String) : String :=
  String.ofList (replaceRuns false ((trim v.toList).flatMap toLowerCase))

def lockedProductionCapabilities : List String :=
  ["authentication", "authorization", "tenant_isolation",
    "primary_persistent_datastore", "tls_encryption", "secure_secret_handling",
    "sensitive_operation_audit", "structured_logging", "input_validation",
    "backup_policy", "database_migration_system", "configuration_validation"]

def aliases : List (String × String) :=
  [("auth", "authentication"), ("database", "primary_persistent_datastore"),
    ("postgres", "primary_persistent_datastore"),
    ("postgresql", "primary_persistent_datastore"), ("tls", "tls_encryption"),
    ("encryption", "tls_encryption"), ("secrets", "secure_secret_handling"),
    ("audit", "sensitive_operation_audit"), ("logging", "structured_logging"),
    ("validation", "input_validation"), ("backup", "backup_policy"),
    ("migrations", "database_migration_system"),
    ("config_validation", "configuration_validation")]

def isLockedProductionCapability (v : String) : Bool :=
  let c := canonicalCapabilityName v
  decide ((aliases.lookup c).getD c ∈ lockedProductionCapabilities)

inductive SwitchClass where
  | runtime
  | applicationProvider
  | infrastructure
  | computeMigration
  | locked
  deriving DecidableEq

inductive PolicyOperation where
  | enable
  | disable
  | changeProvider
  | stop
  | destroy
  deriving DecidableEq

structure PolicyContext where
  environment : String
  actorRoles : List String
  switchClass : SwitchClass
  operation : PolicyOperation
  capability : String
  approved : Bool

structure PolicyDecision where
  allowed : Bool
  reasons : List String
  approvalRequired : Bool
  deriving DecidableEq

def evaluatePlatformPolicy (c : PolicyContext) : PolicyDecision :=
  let production := c.environment = "production"
  let privileged :=
    c.actorRoles.any fun role =>
      role ∈ ["platform-admin", "sre", "security-admin", "devops"]
  let approvalRequired :=
    decide (production ∧
      c.switchClass ∈ [.applicationProvider, .infrastructure, .computeMigration])
  let reasons :=
    (if privileged then [] else ["PLATFORM_ADMIN_ROLE_REQUIRED"]) ++
    (if production ∧ c.operation ∈ [.disable, .stop, .destroy] ∧
        isLockedProductionCapability c.capability then
      ["LOCKED_PRODUCTION_CAPABILITY"] else []) ++
    (if approvalRequired ∧ ¬ c.approved then
      ["PRODUCTION_APPROVAL_REQUIRED"] else []) ++
    (if c.operation = .destroy ∧ c.switchClass = .runtime then
      ["RUNTIME_SWITCH_CANNOT_DESTROY_INFRASTRUCTURE"] else [])
  { allowed := reasons.isEmpty, reasons, approvalRequired }

end PlatformArchitecture.PolicyEngine
