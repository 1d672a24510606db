import PlatformArchitecture.Foundations.Checks
import PlatformArchitecture.Foundations.JsNumbers
import PlatformArchitecture.Foundations.Redaction
import PlatformArchitecture.Security.TenantContext

/-!
# Audit records

What the audit service hands to its repository.  The details of a record are
redacted first: whatever stands under a key that could name a secret is
replaced, at any depth.  Two inputs whose details differ below such keys only
leave the same record, so nothing below them reaches the audit trail.
-/

namespace PlatformArchitecture.Services

open PlatformArchitecture.Foundations
open PlatformArchitecture.Security

/-- A value that is neither an array nor an object.  A number is `none` where
it is not a number; functions and symbols are known by their identity. -/
inductive Primitive where
  | undefined
  | null
  | boolean (value : Bool)
  | number (value : Option JsNumber)
  | bigint (value : Int)
  | string (value : String)
  | reference (identity : Nat)
  deriving DecidableEq

/-- `unknown`: an object is the list of its own properties. -/
abbrev Unknown :=
  Nested String Primitive

inductive AuditResult where
  | success
  | denied
  | failed
  deriving DecidableEq

structure AuditRecord where
  id : String
  tenantId : String
  workspaceId : Option String
  actorId : String
  action : String
  resource : String
  result : AuditResult
  correlationId : String
  occurredAt : String
  details : Unknown

/-! ## Sensitive keys -/

/-- What `.` matches: one code unit that ends no line. -/
def matchesDot (c : Char) : Bool :=
  c.val < 0x10000 && !(c ∈ ['\n', '\r', '\u2028', '\u2029'])

/-- `/api.?key/` at the start of a text. -/
def startsApiKey (chars : List Char) : Bool :=
  "apikey".toList.isPrefixOf chars ||
    "api".toList.isPrefixOf chars && (chars.drop 3).head?.any matchesDot &&
      "key".toList.isPrefixOf (chars.drop 4)

def sensitiveWords : List String :=
  ["password", "authorization", "cookie", "token", "secret", "credential"]

/-- `sensitiveKey.test(key)`. -/
def sensitiveKey (key : String) : Bool :=
  (key.toList.map Char.toLower).tails.any fun chars =>
    sensitiveWords.any (fun word => word.toList.isPrefixOf chars) || startsApiKey chars

example : sensitiveKey "X-API key" = true := by decide

/-! ## Redaction -/

def redactionMark : Primitive :=
  .string "[REDACTED]"

mutual

def redact (key : String) (value : Unknown) : Unknown :=
  if sensitiveKey key then
    .leaf redactionMark
  else
    match value with
    | .list items => .list (redactEntries items)
    | .record fields => .record (redactProperties fields)
    | .leaf value => .leaf value

/-- `value.map((entry) => redact(entry))`: the key starts again as `''`. -/
def redactEntries : List Unknown → List Unknown
  | [] => []
  | entry :: rest => redact "" entry :: redactEntries rest

def redactProperties : List (String × Unknown) → List (String × Unknown)
  | [] => []
  | (nestedKey, nestedValue) :: rest =>
      (nestedKey, redact nestedKey nestedValue) :: redactProperties rest

end

example :
    redact "" (.record [("provider", .leaf (.string "crm")),
      ("nested", .record [("password", .leaf (.string "hunter2"))])]) =
      .record [("provider", .leaf (.string "crm")),
        ("nested", .record [("password", .leaf redactionMark)])] :=
  rfl

mutual

/-- The service redacts what stands under the sensitive keys, and the value
itself where it is read under such a key. -/
theorem redact_eq_redacted (key : String) : ∀ value : Unknown,
    redact key value =
      if sensitiveKey key then .leaf redactionMark
      else value.redacted sensitiveKey redactionMark
  | .leaf _value => by
      rw [redact, Nested.redacted]
  | .list items => by
      rw [redact, Nested.redacted, redactEntries_eq_redactedItems items]
  | .record fields => by
      rw [redact, Nested.redacted, redactProperties_eq_redactedFields fields]

theorem redactEntries_eq_redactedItems : ∀ entries : List Unknown,
    redactEntries entries = Nested.redactedItems sensitiveKey redactionMark entries
  | [] => by
      rw [redactEntries, Nested.redactedItems]
  | entry :: rest => by
      have emptyKey : sensitiveKey "" = false := by decide
      rw [redactEntries, Nested.redactedItems, redact_eq_redacted "" entry,
        redactEntries_eq_redactedItems rest, emptyKey, if_neg Bool.false_ne_true]

theorem redactProperties_eq_redactedFields : ∀ properties : List (String × Unknown),
    redactProperties properties =
      Nested.redactedFields sensitiveKey redactionMark properties
  | [] => by
      rw [redactProperties, Nested.redactedFields]
  | (nestedKey, nestedValue) :: rest => by
      rw [redactProperties, Nested.redactedFields, redact_eq_redacted nestedKey nestedValue,
        redactProperties_eq_redactedFields rest]

end

theorem redact_root (value : Unknown) :
    redact "" value = value.redacted sensitiveKey redactionMark := by
  have emptyKey : sensitiveKey "" = false := by decide
  rw [redact_eq_redacted, emptyKey, if_neg Bool.false_ne_true]

/-! ## The service -/

/-- `Pick<TenantContext, 'tenantId' | 'workspaceId' | 'userId'>`. -/
structure AuditContext extends TenantScope where
  userId : String

structure AuditInput where
  action : String
  resource : String
  result : AuditResult
  correlationId : String
  details : Option Unknown

/-- `input.details ?? {}`. -/
def AuditInput.givenDetails (input : AuditInput) : Unknown :=
  match input.details with
  | none | some (.leaf .undefined) | some (.leaf .null) => .record []
  | some details => details

/-- What `record` asks for before it makes a record. -/
def AuditInput.Complete (input : AuditInput) : Prop :=
  input.action ≠ "" ∧ input.resource ≠ "" ∧ input.correlationId ≠ ""

namespace AuditService

/-- The record of one call: `randomUUID()` and the time are drawn by it. -/
def auditRecord (id occurredAt : String) (context : AuditContext) (input : AuditInput) :
    AuditRecord where
  id := id
  tenantId := context.tenantId
  workspaceId := context.workspaceId
  actorId := context.userId
  action := input.action
  resource := input.resource
  result := input.result
  correlationId := input.correlationId
  occurredAt := occurredAt
  details := redact "" input.givenDetails

/-- What one call hands to `repository.append`, and what its promise settles
with. -/
structure RecordCall where
  appended : List AuditRecord
  settled : Except String AuditRecord

/-- `record(context, input)`: `append` is what the repository answers. -/
def record (append : AuditRecord → Except String Unit) (id occurredAt : String)
    (context : AuditContext) (input : AuditInput) : RecordCall :=
  if input.action = "" ∨ input.resource = "" ∨ input.correlationId = "" then
    ⟨[], .error "AUDIT_CONTEXT_REQUIRED"⟩
  else
    let record := auditRecord id occurredAt context input
    ⟨[record], (append record).map fun _ => record⟩

theorem record_appended (append : AuditRecord → Except String Unit) (id occurredAt : String)
    (context : AuditContext) (input : AuditInput) :
    (record append id occurredAt context input).appended =
      if input.action = "" ∨ input.resource = "" ∨ input.correlationId = "" then []
      else [auditRecord id occurredAt context input] := by
  unfold record
  split
  · rfl
  · rfl

/-- A complete input is recorded once, and the caller has the record as soon as
the repository has taken it. -/
theorem record_of_complete {input : AuditInput} (complete : input.Complete)
    (append : AuditRecord → Except String Unit) (id occurredAt : String)
    (context : AuditContext) :
    record append id occurredAt context input =
      ⟨[auditRecord id occurredAt context input],
        (append (auditRecord id occurredAt context input)).map fun _ =>
          auditRecord id occurredAt context input⟩ := by
  obtain ⟨action, resource, correlationId⟩ := complete
  unfold record
  rw [if_neg (by simp [action, resource, correlationId])]

theorem record_of_incomplete {input : AuditInput} (incomplete : ¬ input.Complete)
    (append : AuditRecord → Except String Unit) (id occurredAt : String)
    (context : AuditContext) :
    record append id occurredAt context input = ⟨[], .error "AUDIT_CONTEXT_REQUIRED"⟩ := by
  have missing : input.action = "" ∨ input.resource = "" ∨ input.correlationId = "" := by
    by_contra present
    push Not at present
    exact incomplete present
  unfold record
  rw [if_pos missing]

/-- A record that was appended is the one made of the call. -/
theorem eq_auditRecord_of_appended {append : AuditRecord → Except String Unit}
    {id occurredAt : String} {context : AuditContext} {input : AuditInput}
    {appended : AuditRecord}
    (member : appended ∈ (record append id occurredAt context input).appended) :
    appended = auditRecord id occurredAt context input := by
  rw [record_appended] at member
  split at member
  · exact absurd member List.not_mem_nil
  · exact List.mem_singleton.mp member

end AuditService

/-- A record without what is drawn anew by every call. -/
def AuditRecord.withoutIdAndTime (record : AuditRecord) : AuditRecord :=
  { record with id := "", occurredAt := "" }

/-- Two inputs of `record` that differ below sensitive keys of the details
only. -/
structure AuditInput.DifferBelowSensitive (input other : AuditInput) : Prop where
  action : other.action = input.action
  resource : other.resource = input.resource
  result : other.result = input.result
  correlationId : other.correlationId = input.correlationId
  details : Nested.SameOutside sensitiveKey input.givenDetails other.givenDetails

namespace AuditService

/-- Whatever stands at or below a sensitive key is the mark. -/
theorem auditRecord_details_marked (id occurredAt : String) (context : AuditContext)
    (input : AuditInput) {path : List (NestedStep String)} {key : String} {value : Unknown}
    (through : .key key ∈ path) (sensitive : sensitiveKey key = true)
    (position :
      Nested.Position path (auditRecord id occurredAt context input).details value) :
    value = .leaf redactionMark := by
  have redactedPosition :
      Nested.Position path (input.givenDetails.redacted sensitiveKey redactionMark) value := by
    rw [← redact_root]
    exact position
  exact Nested.eq_marker_of_position through sensitive redactedPosition

theorem auditRecord_details_sameOutside (id occurredAt : String) (context : AuditContext)
    (input : AuditInput) :
    Nested.SameOutside sensitiveKey input.givenDetails
      (auditRecord id occurredAt context input).details := by
  rw [auditRecord, redact_root]
  exact Nested.sameOutside_redacted input.givenDetails

theorem redact_auditRecord_details (id occurredAt : String) (context : AuditContext)
    (input : AuditInput) :
    redact "" (auditRecord id occurredAt context input).details =
      (auditRecord id occurredAt context input).details := by
  rw [auditRecord, redact_root, redact_root]
  exact Nested.redacted_redacted input.givenDetails

/-- Inputs that differ below sensitive keys only leave the same record. -/
theorem auditRecord_withoutIdAndTime {input other : AuditInput}
    (differ : input.DifferBelowSensitive other) (id occurredAt otherId otherTime : String)
    (context : AuditContext) :
    (auditRecord otherId otherTime context other).withoutIdAndTime =
      (auditRecord id occurredAt context input).withoutIdAndTime := by
  have sameDetails : redact "" other.givenDetails = redact "" input.givenDetails := by
    rw [redact_root, redact_root]
    exact ((Nested.redacted_eq_iff _ _).mpr differ.details).symm
  simp only [AuditRecord.withoutIdAndTime, auditRecord, differ.action, differ.resource,
    differ.result, differ.correlationId, sameDetails]

/-- A call with a complete input appends one record and answers with it, any
other call appends none.  What is appended holds the mark and nothing else under
every sensitive key, keeps everything outside of these, is a fixed point of the
redaction and, but for its id and its time, is what any call appends whose input
differs below sensitive keys only. -/
theorem record_redacts (append : AuditRecord → Except String Unit) (id occurredAt : String)
    (context : AuditContext) (input : AuditInput) :
    (input.Complete →
      record append id occurredAt context input =
        ⟨[auditRecord id occurredAt context input],
          (append (auditRecord id occurredAt context input)).map fun _ =>
            auditRecord id occurredAt context input⟩) ∧
    (¬ input.Complete →
      record append id occurredAt context input = ⟨[], .error "AUDIT_CONTEXT_REQUIRED"⟩) ∧
    (∀ appended ∈ (record append id occurredAt context input).appended,
      (∀ path key value, .key key ∈ path → sensitiveKey key = true →
        Nested.Position path appended.details value → value = .leaf redactionMark) ∧
      Nested.SameOutside sensitiveKey input.givenDetails appended.details ∧
      redact "" appended.details = appended.details) ∧
    ∀ (otherAppend : AuditRecord → Except String Unit) (otherId otherTime : String)
      (other : AuditInput), input.DifferBelowSensitive other →
        (record otherAppend otherId otherTime context other).appended.map
            AuditRecord.withoutIdAndTime =
          (record append id occurredAt context input).appended.map
            AuditRecord.withoutIdAndTime := by
  refine ⟨fun complete => record_of_complete complete append id occurredAt context,
    fun incomplete => record_of_incomplete incomplete append id occurredAt context, ?_, ?_⟩
  · intro appended member
    rw [eq_auditRecord_of_appended member]
    refine ⟨?_, auditRecord_details_sameOutside id occurredAt context input,
      redact_auditRecord_details id occurredAt context input⟩
    intro path key value through sensitive position
    exact auditRecord_details_marked id occurredAt context input through sensitive position
  · intro otherAppend otherId otherTime other differ
    rw [record_appended, record_appended, differ.action, differ.resource, differ.correlationId]
    split
    · rfl
    · rw [List.map_singleton, List.map_singleton,
        auditRecord_withoutIdAndTime differ id occurredAt otherId otherTime context]

end AuditService

end PlatformArchitecture.Services
