import PlatformArchitecture.Foundations.Checks
import PlatformArchitecture.Foundations.KeyedRows
import PlatformArchitecture.Foundations.PercentEncoding
import PlatformArchitecture.Foundations.PosixPaths
import PlatformArchitecture.Security.TenantScopedPorts

/-!
# Tenant-scoped object storage and secrets

Both wrappers put a prefix made of the percent-encoded tenant and workspace in
front of a relative name that they have checked.  The encoding has no slash in
it, so the tenant can be read back from every key that reaches the delegate,
and two tenants that share one delegate do not affect each other.
-/

namespace PlatformArchitecture.Security

open PlatformArchitecture.Foundations

def storagePrefix (ctx : TenantScope) : String :=
  "tenants/" ++ encodeURIComponent ctx.tenantId ++ "/workspaces/" ++
    encodeURIComponent ctx.workspace ++ "/"

def tenantCredentialPrefix (ctx : TenantScope) : String :=
  "tenants/" ++ encodeURIComponent ctx.tenantId ++ "/workspaces/" ++
    encodeURIComponent ctx.workspace ++ "/integrations/"

def relativeStorageKey (key : String) : Except String String :=
  let normalized := stripLeadingSlashes key
  if normalized.isEmpty || (segments normalized).any (· == "..".toList) then
    .error "INVALID_TENANT_STORAGE_KEY"
  else
    .ok normalized

def relativeCredentialName (name : String) : Except String String :=
  let normalized := stripLeadingSlashes name
  if normalized.isEmpty || (segments normalized).any (fun part =>
      part.isEmpty || part == ".".toList || part == "..".toList) then
    .error "INVALID_TENANT_CREDENTIAL_NAME"
  else
    .ok normalized

/-- `Record<string, string>`. -/
abbrev Metadata := List (String × String)

/-- What an object store is asked to do under a key. -/
inductive ObjectOperation where
  | put (body : List UInt8) (metadata : Metadata)
  | get
  | delete
  | signedUrl (expiresSeconds : JsNumber)

/-- A call of the storage wrapper: refused, or made on the delegate under a
key. -/
abbrev ObjectRequest := Except String (String × ObjectOperation)

namespace TenantScopedObjectStorage

def key (ctx : TenantScope) (key : String) : Except String String :=
  (relativeStorageKey key).map fun normalized => storagePrefix ctx ++ normalized

/-- `{...metadata, tenantId, workspaceId: workspaceId ?? ''}`. -/
def scopedMetadata (ctx : TenantScope) (metadata : Metadata) : Metadata :=
  let set (field value : String) (fields : Metadata) : Metadata :=
    upsertRow Prod.fst (fun _stored given => given) (field, value) fields
  set "workspaceId" (ctx.workspaceId.getD "") (set "tenantId" ctx.tenantId metadata)

def put (ctx : TenantScope) (key : String) (body : List UInt8) (metadata : Metadata) :
    ObjectRequest :=
  (TenantScopedObjectStorage.key ctx key).map fun scopedKey =>
    (scopedKey, .put body (scopedMetadata ctx metadata))

def get (ctx : TenantScope) (key : String) : ObjectRequest :=
  (TenantScopedObjectStorage.key ctx key).map fun scopedKey => (scopedKey, .get)

def delete (ctx : TenantScope) (key : String) : ObjectRequest :=
  (TenantScopedObjectStorage.key ctx key).map fun scopedKey => (scopedKey, .delete)

def signedUrl (ctx : TenantScope) (key : String) (expiresSeconds : JsNumber) :
    ObjectRequest :=
  (TenantScopedObjectStorage.key ctx key).map fun scopedKey =>
    (scopedKey, .signedUrl expiresSeconds)

end TenantScopedObjectStorage

/-- `TenantScopedSecretProvider.get`, as the name the delegate is asked for. -/
def TenantScopedSecretProvider.get (ctx : TenantScope) (name : String) :
    Except String String :=
  (relativeCredentialName name).map fun normalized => tenantCredentialPrefix ctx ++ normalized

/-- A call to the storage wrapper. -/
inductive ObjectCall where
  | put (key : String) (body : List UInt8) (metadata : Metadata)
  | get (key : String)
  | delete (key : String)
  | signedUrl (key : String) (expiresSeconds : JsNumber)

def ObjectCall.delegated (ctx : TenantScope) : ObjectCall → ObjectRequest
  | .put key body metadata => TenantScopedObjectStorage.put ctx key body metadata
  | .get key => TenantScopedObjectStorage.get ctx key
  | .delete key => TenantScopedObjectStorage.delete ctx key
  | .signedUrl key expiresSeconds => TenantScopedObjectStorage.signedUrl ctx key expiresSeconds

/-- The key a call was made with. -/
def ObjectCall.given : ObjectCall → String
  | .put key _ _ => key
  | .get key => key
  | .delete key => key
  | .signedUrl key _ => key

/-- Every accepted call goes to the delegate under the prefix of its context
and the checked relative key. -/
theorem ObjectCall.delegated_key {ctx : TenantScope} {call : ObjectCall} {key : String}
    {operation : ObjectOperation} (accepted : call.delegated ctx = .ok (key, operation)) :
    ∃ normalized, relativeStorageKey call.given = .ok normalized ∧
      key = storagePrefix ctx ++ normalized := by
  have scopedKey : TenantScopedObjectStorage.key ctx call.given = .ok key := by
    cases call <;>
    · obtain ⟨scopedKey, isKey, same⟩ := map_eq_ok.mp accepted
      cases same
      exact isKey
  obtain ⟨normalized, isRelative, same⟩ := map_eq_ok.mp scopedKey
  exact ⟨normalized, isRelative, same.symm⟩

/-- What a delegate of either wrapper is asked to do. -/
inductive StorageOperation where
  | object (operation : ObjectOperation)
  | secret

/-- A call to one of the two wrappers. -/
inductive StorageCall where
  | object (call : ObjectCall)
  | secretGet (name : String)

def StorageCall.delegated (ctx : TenantScope) :
    StorageCall → Except String (String × StorageOperation)
  | .object call => (call.delegated ctx).map fun request => (request.1, .object request.2)
  | .secretGet name => (TenantScopedSecretProvider.get ctx name).map fun key => (key, .secret)

/-- The key names the tenant in its second segment. -/
def NamesTenant (tenantId key : String) : Prop :=
  ∃ rest : String, key = "tenants/" ++ encodeURIComponent tenantId ++ "/" ++ rest

private theorem namesTenant_storageKey (ctx : TenantScope) (normalized : String) :
    NamesTenant ctx.tenantId (storagePrefix ctx ++ normalized) := by
  refine ⟨"workspaces/" ++ encodeURIComponent ctx.workspace ++ "/" ++ normalized, ?_⟩
  have separator : "/workspaces/" = "/" ++ "workspaces/" := by decide
  rw [storagePrefix, separator]
  simp only [String.append_assoc]

private theorem namesTenant_credential (ctx : TenantScope) (normalized : String) :
    NamesTenant ctx.tenantId (tenantCredentialPrefix ctx ++ normalized) := by
  refine ⟨"workspaces/" ++ encodeURIComponent ctx.workspace ++ "/integrations/" ++ normalized, ?_⟩
  have separator : "/workspaces/" = "/" ++ "workspaces/" := by decide
  rw [tenantCredentialPrefix, separator]
  simp only [String.append_assoc]

/-- Every accepted call goes to the delegate under a key of its tenant. -/
theorem StorageCall.delegated_namesTenant {ctx : TenantScope} {call : StorageCall}
    {key : String} {operation : StorageOperation}
    (accepted : call.delegated ctx = .ok (key, operation)) :
    NamesTenant ctx.tenantId key := by
  cases call with
  | object call =>
      obtain ⟨request, delegated, same⟩ := map_eq_ok.mp accepted
      obtain ⟨scopedKey, objectOperation⟩ := request
      cases same
      obtain ⟨normalized, _isRelative, rfl⟩ := ObjectCall.delegated_key delegated
      exact namesTenant_storageKey ctx normalized
  | secretGet name =>
      obtain ⟨scopedKey, delegated, same⟩ := map_eq_ok.mp accepted
      cases same
      obtain ⟨normalized, _isRelative, rfl⟩ := map_eq_ok.mp delegated
      exact namesTenant_credential ctx normalized

/-- A key names one tenant only: the encoding has no separator and different
tenants have different encodings. -/
theorem NamesTenant.tenant_eq {tenantId otherId key : String} (names : NamesTenant tenantId key)
    (namesOther : NamesTenant otherId key) : tenantId = otherId := by
  obtain ⟨rest, isKey⟩ := names
  obtain ⟨others, isOther⟩ := namesOther
  have sameChars := congrArg String.toList (isKey.symm.trans isOther)
  simp only [String.toList_append, List.append_assoc] at sameChars
  have sameTail := List.append_cancel_left sameChars
  obtain ⟨sameTenant, _sameRest⟩ :=
    segment_inj (slash_notMem_encodeURIComponent tenantId)
      (slash_notMem_encodeURIComponent otherId) sameTail
  exact encodeURIComponent_injective (String.toList_injective sameTenant)

/-- A wrapper call by one of two tenants at a moment of the shared clock. -/
structure TenantStorageCall where
  party : Party
  moment : Nat
  call : StorageCall

/-- The call as the shared delegate receives it, unless it is refused. -/
def TenantStorageCall.issued (first second : TenantScope) (call : TenantStorageCall) :
    Attempt Party String (Nat × StorageOperation) String :=
  ⟨call.party, (call.call.delegated (partyScope first second call.party)).map fun request =>
    (request.1, (call.moment, request.2))⟩

/-- No key that one context's wrappers pass on is passed on by the other's. -/
def StorageKeysDisjoint (first second : TenantScope) : Prop :=
  ∀ (call other : StorageCall) (key otherKey : String)
    (operation otherOperation : StorageOperation),
    call.delegated first = .ok (key, operation) →
      other.delegated second = .ok (otherKey, otherOperation) → key ≠ otherKey

/-- Over every delegate that keeps its keys apart and for every interleaving,
each context gets the answers and refusals it gets when only its own calls are
made. -/
def StorageObservedAlone (first second : TenantScope) : Prop :=
  ∀ (Cell Out : Type) (delegate : KeyedService Cell (Nat × StorageOperation) Out)
    (cells : String → Cell) (calls : List TenantStorageCall) (observer : Party),
    attemptObservations delegate observer cells
        (calls.map (TenantStorageCall.issued first second)) =
      attemptObservations delegate observer cells
        ((calls.filter fun call => call.party = observer).map
          (TenantStorageCall.issued first second))

private theorem issued_owned (first second : TenantScope) (call : TenantStorageCall) :
    OwnsRequest (fun party key => NamesTenant (partyScope first second party).tenantId key)
      (call.issued first second) := by
  intro key operation requested
  obtain ⟨request, accepted, same⟩ := map_eq_ok.mp requested
  cases same
  exact StorageCall.delegated_namesTenant accepted

private theorem namesTenant_exclusive {first second : TenantScope}
    (different : first.tenantId ≠ second.tenantId) :
    ∀ party other key,
      NamesTenant (partyScope first second party).tenantId key →
        NamesTenant (partyScope first second other).tenantId key → party = other := by
  intro party other key names namesOther
  have sameTenant := names.tenant_eq namesOther
  cases party with
  | first =>
      cases other with
      | first => rfl
      | second => exact absurd sameTenant different
  | second =>
      cases other with
      | first => exact absurd sameTenant.symm different
      | second => rfl

theorem storageObservedAlone_of_ne {first second : TenantScope}
    (different : first.tenantId ≠ second.tenantId) : StorageObservedAlone first second := by
  intro Cell Out delegate cells calls observer
  have owned : ∀ call ∈ calls.map (TenantStorageCall.issued first second),
      OwnsRequest (fun party key => NamesTenant (partyScope first second party).tenantId key)
        call := by
    intro call member
    obtain ⟨storageCall, _, rfl⟩ := List.mem_map.mp member
    exact issued_owned first second storageCall
  rw [attemptObservations_eq_alone delegate (namesTenant_exclusive different) cells
    (calls.map (TenantStorageCall.issued first second)) owned observer, List.filter_map]
  rfl

/-- Different tenants never meet in the delegate of their object storage and
secrets. -/
theorem tenantStorage_isolated (first second : TenantScope)
    (different : first.tenantId ≠ second.tenantId) :
    StorageKeysDisjoint first second ∧ StorageObservedAlone first second := by
  refine ⟨?_, storageObservedAlone_of_ne different⟩
  intro call other key otherKey operation otherOperation accepted otherAccepted sameKey
  have names := StorageCall.delegated_namesTenant accepted
  have namesOther := StorageCall.delegated_namesTenant otherAccepted
  rw [← sameKey] at namesOther
  exact different (names.tenant_eq namesOther)

theorem tenantStorage_isolated_slashed :
    StorageKeysDisjoint ⟨"a", some "b"⟩ ⟨"a/workspaces/b", none⟩ ∧
      StorageObservedAlone ⟨"a", some "b"⟩ ⟨"a/workspaces/b", none⟩ :=
  tenantStorage_isolated ⟨"a", some "b"⟩ ⟨"a/workspaces/b", none⟩ (by decide)

end PlatformArchitecture.Security
