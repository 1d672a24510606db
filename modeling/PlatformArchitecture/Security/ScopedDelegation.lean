import PlatformArchitecture.Foundations.Checks
import PlatformArchitecture.Foundations.Json
import PlatformArchitecture.Security.TenantContext
import PlatformArchitecture.Services.AiGateway
import Mathlib.Data.Set.Basic

/-!
# Calls that are delegated with the tenant of a context

`TenantScopedSearch` and `TenantScopedAI` check the tenant and the workspace
that a caller names and then put those of the context in their place.  What a
scope reaches is a set of resources; a delegated call should reach no more than
the context and the caller both do.
-/

namespace PlatformArchitecture.Security

open PlatformArchitecture.Foundations
open PlatformArchitecture.Services

/-! ## What a scope reaches -/

/-- Whose a row or a document is. -/
structure TenantResource where
  tenantId : String
  workspaceId : Option String
  deriving DecidableEq

/-- The value of an option that counts as true. -/
def givenText (value : Option String) : Option String :=
  value.filter (· ≠ "")

/-- The resources of a tenant and a workspace, each if it is named.  The names
are compared as `canonical` writes them. -/
def reach (canonical : String → Option String) (tenantId workspaceId : Option String) :
    Set TenantResource :=
  { resource |
    (∀ tenant ∈ tenantId, canonical tenant = some resource.tenantId) ∧
      ∀ workspace ∈ workspaceId,
        ∃ id, canonical workspace = some id ∧ resource.workspaceId = some id }

/-- What a context reaches. -/
def TenantScope.reach (canonical : String → Option String) (ctx : TenantScope) :
    Set TenantResource :=
  Security.reach canonical (some ctx.tenantId) (givenText ctx.workspaceId)

/-! ## The wrappers -/

structure SearchQuery where
  text : String
  tenantId : String
  workspaceId : Option String
  limit : Option Int
  cursor : Option String
  filters : List (String × Json)

/-- A query as a caller of the wrapper writes it. -/
structure CallerQuery where
  text : String
  tenantId : Option String
  workspaceId : Option String
  limit : Option Int
  cursor : Option String
  filters : List (String × Json)

/-- The two guards: an empty text names nothing. -/
def checkScope (ctx : TenantScope) (tenantId workspaceId : Option String)
    (crossTenant crossWorkspace : String) : Except String Unit := do
  throwIf (∃ tenant ∈ givenText tenantId, tenant ≠ ctx.tenantId) crossTenant
  throwIf
    (∃ workspace ∈ givenText workspaceId,
      ∃ own ∈ givenText ctx.workspaceId, workspace ≠ own) crossWorkspace

/-- The query that `TenantScopedSearch.search` delegates. -/
def TenantScopedSearch.search (ctx : TenantScope) (query : CallerQuery) :
    Except String SearchQuery := do
  checkScope ctx query.tenantId query.workspaceId
    "CROSS_TENANT_SEARCH_DENIED" "CROSS_WORKSPACE_SEARCH_DENIED"
  return { query with tenantId := ctx.tenantId, workspaceId := ctx.workspaceId }

/-- The request that `TenantScopedAI.generate` delegates. -/
def TenantScopedAI.generate (ctx : TenantScope) (request : AIModelRequest) :
    Except String AIModelRequest := do
  checkScope ctx (some request.tenantId) request.workspaceId
    "CROSS_TENANT_AI_DENIED" "CROSS_WORKSPACE_AI_DENIED"
  return { request with tenantId := ctx.tenantId, workspaceId := ctx.workspaceId }

/-! ## What is claimed of them -/

/-- The context has no workspace, and the caller asks for one of its tenant. -/
def DropsWorkspace (ctx : TenantScope) (tenantId workspaceId : Option String) : Prop :=
  givenText ctx.workspaceId = none ∧ (givenText workspaceId).isSome ∧
    ∀ tenant ∈ givenText tenantId, tenant = ctx.tenantId

/-- The delegated query reaches nothing beyond the context or the caller. -/
def SearchConfined (ctx : TenantScope) (query : CallerQuery) : Prop :=
  ∀ delegated, TenantScopedSearch.search ctx query = .ok delegated →
    reach some (some delegated.tenantId) (givenText delegated.workspaceId) ⊆
      ctx.reach some ∩ reach some (givenText query.tenantId) (givenText query.workspaceId)

/-- The same for a request to a model. -/
def AiConfined (ctx : TenantScope) (request : AIModelRequest) : Prop :=
  ∀ delegated, TenantScopedAI.generate ctx request = .ok delegated →
    reach some (some delegated.tenantId) (givenText delegated.workspaceId) ⊆
      ctx.reach some ∩
        reach some (givenText (some request.tenantId)) (givenText request.workspaceId)

/-! ## The guards -/

section Guards

variable {ctx : TenantScope} {tenantId workspaceId : Option String}

theorem checkScope_eq_ok_iff {crossTenant crossWorkspace : String} :
    checkScope ctx tenantId workspaceId crossTenant crossWorkspace = .ok () ↔
      (∀ tenant ∈ givenText tenantId, tenant = ctx.tenantId) ∧
        ∀ workspace ∈ givenText workspaceId, ∀ own ∈ givenText ctx.workspaceId,
          workspace = own := by
  unfold checkScope
  rw [bind_eq_ok]
  constructor
  · rintro ⟨_passed, sameTenant, sameWorkspace⟩
    constructor
    · intro tenant named
      by_contra differs
      exact throwIf_eq_ok.mp sameTenant ⟨tenant, named, differs⟩
    · intro workspace named own owned
      by_contra differs
      exact throwIf_eq_ok.mp sameWorkspace ⟨workspace, named, own, owned, differs⟩
  · rintro ⟨tenants, workspaces⟩
    refine ⟨⟨⟩, throwIf_of_not ?_, throwIf_of_not ?_⟩
    · rintro ⟨tenant, named, differs⟩
      exact differs (tenants tenant named)
    · rintro ⟨workspace, named, own, owned, differs⟩
      exact differs (workspaces workspace named own owned)

/-- Unless a workspace is dropped, what is delegated reaches just what the
context and the caller both reach. -/
theorem reach_inter_eq (canonical : String → Option String)
    (sameTenant : ∀ tenant ∈ givenText tenantId, tenant = ctx.tenantId)
    (sameWorkspace : ∀ workspace ∈ givenText workspaceId,
      ∀ own ∈ givenText ctx.workspaceId, workspace = own)
    (keeps : ¬ DropsWorkspace ctx tenantId workspaceId) :
    ctx.reach canonical ∩ reach canonical (givenText tenantId) (givenText workspaceId) =
      ctx.reach canonical := by
  apply Set.inter_eq_left.mpr
  rintro resource ⟨ofTenant, ofWorkspace⟩
  constructor
  · intro tenant named
    rw [sameTenant tenant named]
    exact ofTenant ctx.tenantId rfl
  · intro workspace named
    cases own : givenText ctx.workspaceId with
    | none => exact absurd ⟨own, by rw [named]; rfl, sameTenant⟩ keeps
    | some owned =>
        rw [sameWorkspace workspace named owned own]
        exact ofWorkspace owned own

/-- A context without a workspace reaches every workspace of its tenant. -/
theorem not_reach_subset_of_drops (drops : DropsWorkspace ctx tenantId workspaceId) :
    ¬ ctx.reach some ⊆ reach some (givenText tenantId) (givenText workspaceId) := by
  intro subset
  obtain ⟨noWorkspace, asked, -⟩ := drops
  obtain ⟨workspace, named⟩ := Option.isSome_iff_exists.mp asked
  have whole : (⟨ctx.tenantId, none⟩ : TenantResource) ∈ ctx.reach some := by
    constructor
    · rintro tenant ⟨⟩
      rfl
    · rw [noWorkspace]
      exact fun _ none => nomatch none
  obtain ⟨id, -, isWorkspace⟩ := (subset whole).2 workspace named
  cases isWorkspace

end Guards

/-- What the wrapper of a search checked and what it delegates. -/
theorem search_eq_ok_iff {ctx : TenantScope} {query : CallerQuery} {delegated : SearchQuery} :
    TenantScopedSearch.search ctx query = .ok delegated ↔
      checkScope ctx query.tenantId query.workspaceId
          "CROSS_TENANT_SEARCH_DENIED" "CROSS_WORKSPACE_SEARCH_DENIED" = .ok () ∧
        { query with tenantId := ctx.tenantId, workspaceId := ctx.workspaceId } = delegated := by
  rw [TenantScopedSearch.search, bind_eq_ok]
  constructor
  · rintro ⟨_passed, passed, returned⟩
    exact ⟨passed, Except.ok.inj returned⟩
  · rintro ⟨passed, rfl⟩
    exact ⟨(), passed, rfl⟩

/-- The same for a request to a model. -/
theorem generate_eq_ok_iff {ctx : TenantScope} {request delegated : AIModelRequest} :
    TenantScopedAI.generate ctx request = .ok delegated ↔
      checkScope ctx (some request.tenantId) request.workspaceId
          "CROSS_TENANT_AI_DENIED" "CROSS_WORKSPACE_AI_DENIED" = .ok () ∧
        { request with tenantId := ctx.tenantId, workspaceId := ctx.workspaceId } =
          delegated := by
  rw [TenantScopedAI.generate, bind_eq_ok]
  constructor
  · rintro ⟨_passed, passed, returned⟩
    exact ⟨passed, Except.ok.inj returned⟩
  · rintro ⟨passed, rfl⟩
    exact ⟨(), passed, rfl⟩

/-- What the guards let through is within what the caller reaches just when no
workspace of the caller is dropped. -/
theorem checked_reach_subset_iff (ctx : TenantScope) (tenantId workspaceId : Option String)
    (crossTenant crossWorkspace : String) :
    (checkScope ctx tenantId workspaceId crossTenant crossWorkspace = .ok () →
      ctx.reach some ⊆
        ctx.reach some ∩ reach some (givenText tenantId) (givenText workspaceId)) ↔
      ¬ DropsWorkspace ctx tenantId workspaceId := by
  rw [checkScope_eq_ok_iff]
  constructor
  · intro confined drops
    have passes : ∀ workspace ∈ givenText workspaceId,
        ∀ own ∈ givenText ctx.workspaceId, workspace = own := by
      rw [drops.1]
      exact fun _ _ _ none => nomatch none
    exact not_reach_subset_of_drops drops
      ((confined ⟨drops.2.2, passes⟩).trans Set.inter_subset_right)
  · rintro keeps ⟨sameTenant, sameWorkspace⟩
    rw [reach_inter_eq some sameTenant sameWorkspace keeps]

/-- A delegated call is confined to the context and to what the caller asked
for just when no workspace of the caller is dropped. -/
theorem delegatedScope_confined_iff (ctx : TenantScope) :
    (∀ query, SearchConfined ctx query ↔
      ¬ DropsWorkspace ctx query.tenantId query.workspaceId) ∧
    ∀ request, AiConfined ctx request ↔
      ¬ DropsWorkspace ctx (some request.tenantId) request.workspaceId := by
  constructor
  · intro query
    rw [← checked_reach_subset_iff ctx query.tenantId query.workspaceId
      "CROSS_TENANT_SEARCH_DENIED" "CROSS_WORKSPACE_SEARCH_DENIED"]
    constructor
    · intro confined passed
      exact confined _ (search_eq_ok_iff.mpr ⟨passed, rfl⟩)
    · intro confined delegated isDelegated
      obtain ⟨passed, rfl⟩ := search_eq_ok_iff.mp isDelegated
      exact confined passed
  · intro request
    rw [← checked_reach_subset_iff ctx (some request.tenantId) request.workspaceId
      "CROSS_TENANT_AI_DENIED" "CROSS_WORKSPACE_AI_DENIED"]
    constructor
    · intro confined passed
      exact confined _ (generate_eq_ok_iff.mpr ⟨passed, rfl⟩)
    · intro confined delegated isDelegated
      obtain ⟨passed, rfl⟩ := generate_eq_ok_iff.mp isDelegated
      exact confined passed

/-- A context of the whole tenant delegates a query for one workspace as a
query for all of them. -/
theorem searchConfined_not_of_dropped :
    TenantScopedSearch.search ⟨"t1", none⟩ ⟨"budget", none, some "w1", none, none, []⟩ =
        .ok ⟨"budget", "t1", none, none, none, []⟩ ∧
      ⟨"t1", some "w2"⟩ ∈ reach some (some "t1") (givenText none) ∧
      ¬ SearchConfined ⟨"t1", none⟩ ⟨"budget", none, some "w1", none, none, []⟩ := by
  have drops : DropsWorkspace ⟨"t1", none⟩ none (some "w1") :=
    ⟨rfl, rfl, fun _ none => nomatch none⟩
  refine ⟨rfl, ⟨?_, fun _ none => nomatch none⟩, ?_⟩
  · rintro tenant ⟨⟩
    rfl
  · intro confined
    have within := (confined ⟨"budget", "t1", none, none, none, []⟩ rfl).trans
      Set.inter_subset_right
    exact not_reach_subset_of_drops drops within

end PlatformArchitecture.Security
