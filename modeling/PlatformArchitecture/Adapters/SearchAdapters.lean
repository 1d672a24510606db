import PlatformArchitecture.Postgres.ColumnTypes
import PlatformArchitecture.Security.ScopedDelegation

/-!
# What the search adapters select

Both adapters select by the tenant of a query and, where it names one, by its
workspace.  A query without a workspace selects from the whole tenant, so what
a wrapper delegates decides what is found.
-/

namespace PlatformArchitecture.Adapters

open PlatformArchitecture.Foundations
open PlatformArchitecture.Postgres
open PlatformArchitecture.Security

/-! ## `OpenSearchAdapter` -/

/-- A document of the index, with the fields that terms are compared with. -/
structure IndexedDocument where
  resource : TenantResource
  metadata : List (String × Json)

def IndexedDocument.field (document : IndexedDocument) (name : String) : Option Json :=
  if name = "tenantId" then some (.str document.resource.tenantId)
  else if name = "workspaceId" then document.resource.workspaceId.map Json.str
  else document.metadata.lookup name

/-- The body of a search request. -/
structure SearchBody where
  size : Int
  text : String
  filter : List (String × Json)
  searchAfter : Option String

def OpenSearchAdapter.body (query : SearchQuery) : SearchBody where
  size := min 100 (max 1 (query.limit.getD 20))
  text := query.text
  filter :=
    ("tenantId", .str query.tenantId) ::
      ((givenText query.workspaceId).map fun workspace =>
        ("workspaceId", Json.str workspace)).toList ++
      query.filters.map fun filter => ("metadata." ++ filter.1 ++ ".keyword", filter.2)
  searchAfter := givenText query.cursor

/-- The hits of a query; `engine` is the search service. -/
def OpenSearchAdapter.search (engine : SearchBody → List IndexedDocument) (query : SearchQuery) :
    Except String (List IndexedDocument) := do
  throwIf (query.tenantId = "") "TENANT_REQUIRED"
  return engine (OpenSearchAdapter.body query)

/-- Every document that the service finds has the terms of the filter. -/
def FiltersTerms (engine : SearchBody → List IndexedDocument) : Prop :=
  ∀ body, ∀ document ∈ engine body, ∀ term ∈ body.filter,
    document.field term.1 = some term.2

/-- The hits of a query are within its scope. -/
theorem openSearch_hit_mem_reach {engine : SearchBody → List IndexedDocument}
    (filters : FiltersTerms engine) {query : SearchQuery} {hits : List IndexedDocument}
    (found : OpenSearchAdapter.search engine query = .ok hits) :
    ∀ hit ∈ hits,
      hit.resource ∈ reach some (some query.tenantId) (givenText query.workspaceId) := by
  obtain ⟨_passed, _named, returned⟩ := bind_eq_ok.mp found
  obtain rfl := Except.ok.inj returned
  intro hit member
  have terms := filters (OpenSearchAdapter.body query) hit member
  constructor
  · rintro tenant ⟨⟩
    have isTenant := terms ("tenantId", .str query.tenantId) (by simp [OpenSearchAdapter.body])
    simp only [IndexedDocument.field, if_true, Option.some.injEq, Json.str.injEq] at isTenant
    rw [isTenant]
  · intro workspace named
    have isWorkspace := terms ("workspaceId", .str workspace)
      (by simp [OpenSearchAdapter.body, Option.mem_def.mp named])
    obtain ⟨id, isId, isSame⟩ := Option.map_eq_some_iff.mp
      (show hit.resource.workspaceId.map Json.str = some (.str workspace) from isWorkspace)
    rw [Json.str.injEq] at isSame
    exact ⟨workspace, rfl, by rw [isId, isSame]⟩

/-! ## `PostgresSearchAdapter` -/

/-- A row of `document_chunks`. -/
structure ChunkRow where
  resource : TenantResource
  content : String

/-- The `WHERE` clause, with the identifiers as the `uuid` columns read them. -/
def PostgresSearchAdapter.selects (matchesText : String → String → Bool) (tenantId : String)
    (workspaceId : Option String) (text : String) (row : ChunkRow) : Bool :=
  row.resource.tenantId = tenantId &&
    (workspaceId = none || row.resource.workspaceId = workspaceId) &&
    (text = "" || matchesText row.content text)

/-- The rows that the statement ranks and pages; an identifier that is no
`uuid` fails it. -/
def PostgresSearchAdapter.selectedRows (types : ColumnTypes) (matchesText : String → String → Bool)
    (rows : List ChunkRow) (query : SearchQuery) : Except String (List ChunkRow) := do
  throwIf (query.tenantId = "") "TENANT_REQUIRED"
  match types.uuid query.tenantId, types.nullableUuid query.workspaceId with
  | some tenantId, some workspaceId =>
      return rows.filter
        (PostgresSearchAdapter.selects matchesText tenantId workspaceId query.text)
  | _, _ => .error "invalid input syntax for type uuid"

section Rows

variable {types : ColumnTypes}

/-- A scope whose names the columns read, by what they read. -/
theorem mem_reach_iff_of_read {tenant tenantId : String} {workspace workspaceId : Option String}
    (isTenant : types.uuid tenant = some tenantId)
    (isWorkspace : types.nullableUuid workspace = some workspaceId) (resource : TenantResource) :
    resource ∈ reach types.uuid (some tenant) workspace ↔
      resource.tenantId = tenantId ∧ (workspaceId = none ∨ resource.workspaceId = workspaceId) := by
  have ofTenant : (∀ named ∈ some tenant, types.uuid named = some resource.tenantId) ↔
      resource.tenantId = tenantId := by
    simp [isTenant, eq_comm]
  cases workspace with
  | none =>
      have unread : workspaceId = none := (Option.some.inj isWorkspace).symm
      rw [unread, ← ofTenant]
      simp [reach]
  | some named =>
      obtain ⟨id, isId, rfl⟩ := Option.map_eq_some_iff.mp isWorkspace
      rw [← ofTenant]
      simp [reach, isId]

/-- The statement selects just the rows of its scope that match the text. -/
theorem mem_selectedRows_iff {matchesText : String → String → Bool}
    {rows found : List ChunkRow} {query : SearchQuery}
    (isFound : PostgresSearchAdapter.selectedRows types matchesText rows query = .ok found)
    (row : ChunkRow) :
    row ∈ found ↔
      row ∈ rows ∧ (query.text = "" ∨ matchesText row.content query.text = true) ∧
        row.resource ∈ reach types.uuid (some query.tenantId) query.workspaceId := by
  obtain ⟨_passed, _named, selected⟩ := bind_eq_ok.mp isFound
  cases isTenant : types.uuid query.tenantId with
  | none => simp [isTenant] at selected
  | some tenantId =>
      cases isWorkspace : types.nullableUuid query.workspaceId with
      | none => simp [isTenant, isWorkspace] at selected
      | some workspaceId =>
          simp only [isTenant, isWorkspace] at selected
          obtain rfl := Except.ok.inj selected
          rw [mem_reach_iff_of_read isTenant isWorkspace, List.mem_filter]
          simp only [PostgresSearchAdapter.selects, Bool.and_eq_true, Bool.or_eq_true,
            decide_eq_true_eq]
          tauto

end Rows

/-! ## Searches through the wrapper -/

/-- A name that is given is a name. -/
theorem reach_subset_reach_given (canonical : String → Option String)
    (tenantId workspaceId : Option String) :
    reach canonical tenantId workspaceId ⊆ reach canonical tenantId (givenText workspaceId) := by
  rintro resource ⟨ofTenant, ofWorkspace⟩
  refine ⟨ofTenant, fun workspace given => ofWorkspace workspace ?_⟩
  exact (Option.filter_eq_some_iff.mp given).1

section Wrapped

variable {ctx : TenantScope} {query : CallerQuery} {delegated : SearchQuery}

/-- What a wrapped search finds is reached by the context, and by the caller
too unless a workspace of the caller is dropped. -/
theorem wrapped_openSearch_confined {engine : SearchBody → List IndexedDocument}
    (filters : FiltersTerms engine)
    (isDelegated : TenantScopedSearch.search ctx query = .ok delegated)
    (keeps : ¬ DropsWorkspace ctx query.tenantId query.workspaceId)
    {hits : List IndexedDocument} (found : OpenSearchAdapter.search engine delegated = .ok hits) :
    ∀ hit ∈ hits, hit.resource ∈
      ctx.reach some ∩ reach some (givenText query.tenantId) (givenText query.workspaceId) := by
  intro hit member
  have within := openSearch_hit_mem_reach filters found hit member
  obtain ⟨passed, rfl⟩ := search_eq_ok_iff.mp isDelegated
  obtain ⟨sameTenant, sameWorkspace⟩ := checkScope_eq_ok_iff.mp passed
  rw [reach_inter_eq some sameTenant sameWorkspace keeps]
  exact within

/-- The same for the rows of a wrapped search, as the columns read the names. -/
theorem wrapped_selectedRows_confined {types : ColumnTypes}
    {matchesText : String → String → Bool} {rows found : List ChunkRow}
    (isDelegated : TenantScopedSearch.search ctx query = .ok delegated)
    (keeps : ¬ DropsWorkspace ctx query.tenantId query.workspaceId)
    (isFound : PostgresSearchAdapter.selectedRows types matchesText rows delegated = .ok found) :
    ∀ row ∈ found, row.resource ∈
      ctx.reach types.uuid ∩
        reach types.uuid (givenText query.tenantId) (givenText query.workspaceId) := by
  intro row member
  obtain ⟨-, -, within⟩ := (mem_selectedRows_iff isFound row).mp member
  obtain ⟨passed, rfl⟩ := search_eq_ok_iff.mp isDelegated
  obtain ⟨sameTenant, sameWorkspace⟩ := checkScope_eq_ok_iff.mp passed
  rw [reach_inter_eq types.uuid sameTenant sameWorkspace keeps]
  exact reach_subset_reach_given types.uuid (some ctx.tenantId) ctx.workspaceId within

end Wrapped

end PlatformArchitecture.Adapters
