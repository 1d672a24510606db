import Mathlib.Data.List.Basic
import PlatformArchitecture.Foundations.LookThenSave
import PlatformArchitecture.Foundations.TextEncodings
import PlatformArchitecture.Services.Audit
import PlatformArchitecture.Services.JobQueue

/-!
# Workspace slugs and connection names

`TenantService.createWorkspace` and `IntegrationService.createConnection` look
for a row of the normalised name they are about to save, and save it in a
separate call.  The repository does not look again, so the names are unique in
just the schedules in which no call saves a name between the lookup and the
save of another.
-/

namespace PlatformArchitecture.Services

open PlatformArchitecture.Foundations
open PlatformArchitecture.Security

/-- `text.trim()`. -/
def trimmed (text : String) : String :=
  String.ofList (PolicyEngine.trim text.toList)

/-! ## Workspaces -/

inductive TenantStatus where
  | active
  | suspended
  deriving DecidableEq

structure Tenant where
  tenantId : String
  name : String
  status : TenantStatus

structure Workspace where
  workspaceId : String
  tenantId : String
  name : String
  slug : String
  createdBy : String
  createdAt : String

inductive TenantQuestion where
  | getTenant (tenantId : String)

abbrev TenantQuestion.Answer : TenantQuestion → Type
  | .getTenant _ => Option Tenant

/-- The arguments of `findWorkspaceBySlug`. -/
structure WorkspaceKey where
  tenantId : String
  slug : String
  deriving DecidableEq

def Workspace.key (workspace : Workspace) : WorkspaceKey :=
  ⟨workspace.tenantId, workspace.slug⟩

/-- `/^[a-z0-9]+(?:-[a-z0-9]+)*$/`. -/
def validSlug (slug : String) : Bool :=
  (slug.toList.splitOn '-').all fun part =>
    !part.isEmpty && part.all fun c => c.isLower || c.isDigit

/-- A call of `createWorkspace`, with the identifier and the time it draws. -/
structure CreateWorkspaceCall where
  context : TenantContext
  name : String
  slug : String
  randomUUID : String
  now : String

/-- `!tenant || tenant.status !== 'ACTIVE'`. -/
def checkTenant (tenant : Option Tenant) : Except String Unit :=
  throwIf (tenant.all (fun found => found.status ≠ .active) = true) "TENANT_NOT_ACTIVE"

def checkWorkspace (workspace : Workspace) : Except String Unit :=
  throwIf
    (utf16Length workspace.name < 2 ∨ 120 < utf16Length workspace.name ∨
      validSlug workspace.slug = false)
    "INVALID_WORKSPACE"

section Programs

/- `text.toLowerCase()`. -/
variable (toLowerCase : String → String)

/-- The workspace a call makes of its normalised input. -/
def CreateWorkspaceCall.workspace (call : CreateWorkspaceCall) : Workspace where
  workspaceId := call.randomUUID
  tenantId := call.context.tenantId
  name := trimmed call.name
  slug := toLowerCase (trimmed call.slug)
  createdBy := call.context.userId
  createdAt := call.now

def createWorkspace (call : CreateWorkspaceCall) :
    RepositoryProgram TenantQuestion WorkspaceKey Workspace TenantQuestion.Answer String
      Workspace := do
  Program.check (requirePermission call.context "workspace:create")
  let tenant ← askRepository (.getTenant call.context.tenantId)
  Program.check (checkTenant tenant)
  let workspace := call.workspace toLowerCase
  Program.check (checkWorkspace workspace)
  let existing ← findInRepository workspace.key
  Program.check (throwIf (existing.isSome = true) "WORKSPACE_SLUG_ALREADY_EXISTS")
  saveInRepository workspace
  return workspace

/-! ## Connections -/

inductive ConnectionStatus where
  | active
  | disabled

/-- A value of `Record<string, string | number | boolean>`. -/
inductive ConfigurationValue where
  | str (value : String)
  | num (value : JsNumber)
  | bool (value : Bool)

abbrev Configuration :=
  List (String × ConfigurationValue)

structure IntegrationConnection where
  connectionId : String
  tenantId : String
  workspaceId : Option String
  provider : String
  displayName : String
  secretReference : String
  configuration : Configuration
  status : ConnectionStatus
  createdAt : String

/-- The arguments of `findByName`. -/
structure ConnectionKey where
  tenantId : String
  workspaceId : Option String
  provider : String
  displayName : String
  deriving DecidableEq

def IntegrationConnection.key (connection : IntegrationConnection) : ConnectionKey :=
  ⟨connection.tenantId, connection.workspaceId, connection.provider, connection.displayName⟩

/-- `/password|token|secret|credential|api.?key/i` at the start of a text in
lower case. -/
def startsSensitively (chars : List Char) : Bool :=
  ["password", "token", "secret", "credential"].any (fun word => word.toList.isPrefixOf chars) ||
    startsApiKey chars

/-- `sensitiveConfigKey.test(key)`. -/
def sensitiveConfigKey (key : String) : Bool :=
  (key.toList.map Char.toLower).tails.any startsSensitively

example : sensitiveConfigKey "myApi-Key" = true := by decide

structure CreateConnectionCall where
  context : TenantContext
  provider : String
  displayName : String
  secretReference : String
  configuration : Option Configuration
  randomUUID : String
  now : String

def checkConnection (connection : IntegrationConnection) : Except String Unit := do
  throwIf (connection.provider = "" ∨ connection.displayName = "" ∨
      isBlank connection.secretReference)
    "INVALID_INTEGRATION_CONNECTION"
  throwIf (connection.configuration.any (fun entry => sensitiveConfigKey entry.1) = true)
    "PLAINTEXT_INTEGRATION_SECRET_FORBIDDEN"

/-- The connection a call makes of its normalised input. -/
def CreateConnectionCall.connection (call : CreateConnectionCall) : IntegrationConnection where
  connectionId := call.randomUUID
  tenantId := call.context.tenantId
  workspaceId := call.context.workspaceId
  provider := toLowerCase (trimmed call.provider)
  displayName := trimmed call.displayName
  secretReference := call.secretReference
  configuration := call.configuration.getD []
  status := .active
  createdAt := call.now

def createConnection (call : CreateConnectionCall) :
    RepositoryProgram Empty ConnectionKey IntegrationConnection Empty.elim String
      IntegrationConnection := do
  Program.check (requirePermission call.context "integration:write")
  let connection := call.connection toLowerCase
  Program.check (checkConnection connection)
  let existing ← findInRepository connection.key
  Program.check (throwIf (existing.isSome = true) "INTEGRATION_CONNECTION_ALREADY_EXISTS")
  saveInRepository connection
  return connection

/-! ## Looking before saving -/

/-- The workspace that is saved has the key that was looked for. -/
theorem createWorkspace_looks (call : CreateWorkspaceCall) :
    LooksBeforeSaving Workspace.key none (createWorkspace toLowerCase call) := by
  unfold createWorkspace
  refine .check_bind fun _permitted => .ask_bind fun tenant => .check_bind fun _active =>
    .check_bind fun _valid => .find_bind ?_ ?_
  · exact .check_bind fun _fresh => .save_bind (.done none _)
  · intro existing
    exact .fail none _

/-- The connection that is saved has the key that was looked for. -/
theorem createConnection_looks (call : CreateConnectionCall) :
    LooksBeforeSaving IntegrationConnection.key none (createConnection toLowerCase call) := by
  unfold createConnection
  refine .check_bind fun _permitted => .check_bind fun _valid => .find_bind ?_ ?_
  · exact .check_bind fun _fresh => .save_bind (.done none _)
  · intro existing
    exact .fail none _

end Programs

/-! ## Unique names -/

section Schedules

variable {Pid : Type} [DecidableEq Pid]

abbrev WorkspaceSchedule (Pid : Type) :=
  List (Event Pid (RepositoryChoice TenantQuestion TenantQuestion.Answer))

abbrev ConnectionSchedule (Pid : Type) :=
  List (Event Pid (RepositoryChoice Empty Empty.elim))

/-- The statements of the calls one after the other, as they are scheduled. -/
abbrev workspaceStep :
    RepositoryWorld Pid TenantQuestion WorkspaceKey Workspace TenantQuestion.Answer String
      Workspace →
    Event Pid (RepositoryChoice TenantQuestion TenantQuestion.Answer) →
    RepositoryWorld Pid TenantQuestion WorkspaceKey Workspace TenantQuestion.Answer String
      Workspace :=
  World.step (repositoryServer "REPOSITORY_UNAVAILABLE" Workspace.key)

abbrev connectionStep :
    RepositoryWorld Pid Empty ConnectionKey IntegrationConnection Empty.elim String
      IntegrationConnection →
    Event Pid (RepositoryChoice Empty Empty.elim) →
    RepositoryWorld Pid Empty ConnectionKey IntegrationConnection Empty.elim String
      IntegrationConnection :=
  World.step (repositoryServer "REPOSITORY_UNAVAILABLE" IntegrationConnection.key)

/-- The calls of `createWorkspace` before their first statement. -/
def workspaceStart (toLowerCase : String → String) (calls : Pid → CreateWorkspaceCall) :
    RepositoryWorld Pid TenantQuestion WorkspaceKey Workspace TenantQuestion.Answer String
      Workspace :=
  repositoryStart fun pid => createWorkspace toLowerCase (calls pid)

def connectionStart (toLowerCase : String → String) (calls : Pid → CreateConnectionCall) :
    RepositoryWorld Pid Empty ConnectionKey IntegrationConnection Empty.elim String
      IntegrationConnection :=
  repositoryStart fun pid => createConnection toLowerCase (calls pid)

/-- Names are unique in just the schedules in which no call saves a row of a
name between the lookup and the save of another call for that name. -/
theorem namesUnique_iff_undisturbed (toLowerCase : String → String)
    (workspaceCalls : Pid → CreateWorkspaceCall) (workspaceSchedule : WorkspaceSchedule Pid)
    (connectionCalls : Pid → CreateConnectionCall)
    (connectionSchedule : ConnectionSchedule Pid) :
    ((∀ prior, prior <+: workspaceSchedule →
      ((run workspaceStep (workspaceStart toLowerCase workspaceCalls) prior).shared.rows.map
        Workspace.key).Nodup) ↔
      EveryStep workspaceStep (SavesUndisturbed Workspace.key)
        (workspaceStart toLowerCase workspaceCalls) workspaceSchedule) ∧
    ((∀ prior, prior <+: connectionSchedule →
      ((run connectionStep (connectionStart toLowerCase connectionCalls) prior).shared.rows.map
        IntegrationConnection.key).Nodup) ↔
      EveryStep connectionStep (SavesUndisturbed IntegrationConnection.key)
        (connectionStart toLowerCase connectionCalls) connectionSchedule) :=
  ⟨keysDistinct_iff_undisturbed _
      (fun pid => createWorkspace_looks toLowerCase (workspaceCalls pid)) workspaceSchedule,
    keysDistinct_iff_undisturbed _
      (fun pid => createConnection_looks toLowerCase (connectionCalls pid)) connectionSchedule⟩

end Schedules

section Races

private def founder : TenantContext where
  tenantId := "acme"
  workspaceId := none
  userId := "u1"
  roles := []
  permissions := ["*"]
  sessionId := none
  mfa := true

private def randomUUIDOf (pid : Bool) : String :=
  if pid then "6d1f3c9a-2f0e-4a57-9d61-0c8b7b1f4e10" else "0b8f6a54-7d3e-4c1a-8a55-3f2f7f0f9c11"

private def financeCall (pid : Bool) : CreateWorkspaceCall where
  context := founder
  name := "Finance"
  slug := "finance"
  randomUUID := randomUUIDOf pid
  now := "2026-01-01T00:00:00.000Z"

private def crmCall (pid : Bool) : CreateConnectionCall where
  context := founder
  provider := "crm"
  displayName := "Primary"
  secretReference := "secrets/crm"
  configuration := none
  randomUUID := randomUUIDOf pid
  now := "2026-01-01T00:00:00.000Z"

/-- The tenant is active whenever it is asked for. -/
private def answeredActive :
    (question : TenantQuestion) → TenantQuestion.Answer question
  | .getTenant tenantId => some ⟨tenantId, "Acme", .active⟩

/-- Both calls take each of their statements before either takes the next. -/
private def sideBySide {Question : Type} {Answer : Question → Type}
    (answers : (question : Question) → Answer question) (statements : Nat) :
    List (Event Bool (RepositoryChoice Question Answer)) :=
  (List.replicate statements
    [.statement false ⟨.answered, answers⟩, .statement true ⟨.answered, answers⟩]).flatten

/-- Two calls side by side both find the name free and save it. -/
theorem namesNotUnique_sideBySide :
    (¬ ∀ (toLowerCase : String → String) (calls : Bool → CreateWorkspaceCall)
        (schedule : WorkspaceSchedule Bool),
      ((run workspaceStep (workspaceStart toLowerCase calls) schedule).shared.rows.map
        Workspace.key).Nodup) ∧
    ¬ ∀ (toLowerCase : String → String) (calls : Bool → CreateConnectionCall)
        (schedule : ConnectionSchedule Bool),
      ((run connectionStep (connectionStart toLowerCase calls) schedule).shared.rows.map
        IntegrationConnection.key).Nodup := by
  constructor
  · intro unique
    have distinct := unique (fun text => text) financeCall (sideBySide answeredActive 3)
    revert distinct
    decide +kernel
  · intro unique
    have distinct := unique (fun text => text) crmCall (sideBySide nofun 2)
    revert distinct
    decide +kernel

end Races

end PlatformArchitecture.Services
