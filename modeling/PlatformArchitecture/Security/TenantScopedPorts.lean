import PlatformArchitecture.Foundations.Json
import PlatformArchitecture.Foundations.KeyedService
import PlatformArchitecture.Security.TenantContext

/-!
# Tenant-scoped cache, idempotency and lock ports

Each wrapper forwards to one shared delegate under a key made by `tenantKey`.
Two contexts are isolated when no key of one is a key of the other and, over
every delegate that keeps its keys apart, each gets the answers it would get
alone.  This is the case exactly when their scope paths are separate; nothing
in the wrappers makes them so.
-/

namespace PlatformArchitecture.Security

open PlatformArchitecture.Foundations

variable {Value : Type}

/-- What a delegate is asked to do under a key.  `withLock` reaches it twice:
once to acquire and once to release. -/
inductive PortOperation (Value : Type) where
  | cacheGet
  | cacheSet (value : Value) (ttlSeconds : Option JsNumber)
  | cacheDelete
  | idempotencyGet
  | putIfAbsent (value : List UInt8) (ttlSeconds : JsNumber)
  | lockAcquire (ttlMs : JsNumber)
  | lockRelease

structure DelegateCall (Value : Type) where
  key : String
  operation : PortOperation Value

namespace TenantScopedCache

def get (ctx : TenantScope) (key : String) : DelegateCall Value :=
  ⟨tenantKey ctx ["cache", key], .cacheGet⟩

def set (ctx : TenantScope) (key : String) (value : Value)
    (ttlSeconds : Option JsNumber) : DelegateCall Value :=
  ⟨tenantKey ctx ["cache", key], .cacheSet value ttlSeconds⟩

def delete (ctx : TenantScope) (key : String) : DelegateCall Value :=
  ⟨tenantKey ctx ["cache", key], .cacheDelete⟩

end TenantScopedCache

namespace TenantScopedIdempotency

def get (ctx : TenantScope) (key : String) : DelegateCall Value :=
  ⟨tenantKey ctx ["idempotency", key], .idempotencyGet⟩

def putIfAbsent (ctx : TenantScope) (key : String) (value : List UInt8)
    (ttlSeconds : JsNumber) : DelegateCall Value :=
  ⟨tenantKey ctx ["idempotency", key], .putIfAbsent value ttlSeconds⟩

end TenantScopedIdempotency

namespace TenantScopedLock

def acquire (ctx : TenantScope) (key : String) (ttlMs : JsNumber) :
    DelegateCall Value :=
  ⟨tenantKey ctx ["lock", key], .lockAcquire ttlMs⟩

def release (ctx : TenantScope) (key : String) : DelegateCall Value :=
  ⟨tenantKey ctx ["lock", key], .lockRelease⟩

end TenantScopedLock

/-- A call to one of the wrappers. -/
inductive PortCall (Value : Type) where
  | cacheGet (key : String)
  | cacheSet (key : String) (value : Value) (ttlSeconds : Option JsNumber)
  | cacheDelete (key : String)
  | idempotencyGet (key : String)
  | putIfAbsent (key : String) (value : List UInt8) (ttlSeconds : JsNumber)
  | lockAcquire (key : String) (ttlMs : JsNumber)
  | lockRelease (key : String)

/-- The call the wrapper of a context makes on the delegate. -/
def PortCall.delegated (ctx : TenantScope) : PortCall Value → DelegateCall Value
  | .cacheGet key => TenantScopedCache.get ctx key
  | .cacheSet key value ttlSeconds => TenantScopedCache.set ctx key value ttlSeconds
  | .cacheDelete key => TenantScopedCache.delete ctx key
  | .idempotencyGet key => TenantScopedIdempotency.get ctx key
  | .putIfAbsent key value ttlSeconds =>
      TenantScopedIdempotency.putIfAbsent ctx key value ttlSeconds
  | .lockAcquire key ttlMs => TenantScopedLock.acquire ctx key ttlMs
  | .lockRelease key => TenantScopedLock.release ctx key

/-- Every call goes to the delegate under a key of its own context. -/
theorem PortCall.delegated_key (ctx : TenantScope) (call : PortCall Value) :
    ∃ parts, (call.delegated ctx).key = tenantKey ctx parts := by
  cases call <;> exact ⟨_, rfl⟩

inductive Party where
  | first
  | second
  deriving DecidableEq

/-- A wrapper call by one of two contexts at a moment of the shared clock. -/
structure PartyCall (Value : Type) where
  party : Party
  moment : Nat
  call : PortCall Value

def partyScope (first second : TenantScope) : Party → TenantScope
  | .first => first
  | .second => second

/-- The call as the shared delegate receives it. -/
def PartyCall.issued (first second : TenantScope) (call : PartyCall Value) :
    Call Party String (Nat × PortOperation Value) :=
  let delegated := call.call.delegated (partyScope first second call.party)
  ⟨call.party, delegated.key, (call.moment, delegated.operation)⟩

/-- Over every delegate that keeps its keys apart and for every interleaving,
each context gets the answers it gets when only its own calls are made. -/
def ObserveAlone (first second : TenantScope) : Prop :=
  ∀ (Cell Value Out : Type)
    (delegate : KeyedService Cell (Nat × PortOperation Value) Out)
    (cells : String → Cell) (calls : List (PartyCall Value)) (observer : Party),
    observations delegate observer cells
        (calls.map (PartyCall.issued first second)) =
      observations delegate observer cells
        ((calls.filter fun call => call.party = observer).map
          (PartyCall.issued first second))

/-- The isolation the wrappers are for. -/
def TenantsIsolated (first second : TenantScope) : Prop :=
  KeysDisjoint first second ∧ ObserveAlone first second

/-- A party owns the keys of its scope. -/
private def ownsKey (first second : TenantScope) (party : Party) (key : String) :
    Prop :=
  ∃ parts, key = tenantKey (partyScope first second party) parts

private theorem ownsKey_exclusive {first second : TenantScope}
    (disjoint : KeysDisjoint first second) :
    ∀ party other key,
      ownsKey first second party key → ownsKey first second other key →
        party = other := by
  intro party other key owns otherOwns
  obtain ⟨parts, same⟩ := owns
  obtain ⟨otherParts, otherSame⟩ := otherOwns
  cases party with
  | first =>
      cases other with
      | first => rfl
      | second =>
          exact False.elim (disjoint parts otherParts (same.symm.trans otherSame))
  | second =>
      cases other with
      | first =>
          exact False.elim (disjoint otherParts parts (otherSame.symm.trans same))
      | second => rfl

theorem observeAlone_of_keysDisjoint {first second : TenantScope}
    (disjoint : KeysDisjoint first second) :
    ObserveAlone first second := by
  intro Cell Value Out delegate cells calls observer
  have owned : ∀ call ∈ calls.map (PartyCall.issued first second),
      ownsKey first second call.caller call.key := by
    intro call member
    obtain ⟨partyCall, _, rfl⟩ := List.mem_map.mp member
    exact partyCall.call.delegated_key (partyScope first second partyCall.party)
  have alone :=
    observations_eq_alone delegate (ownsKey_exclusive disjoint) cells
      (calls.map (PartyCall.issued first second)) owned observer
  rw [alone, callsOf, List.filter_map]
  rfl

/-- Two contexts are isolated exactly when their scope paths are separate. -/
theorem tenantsIsolated_iff_scopesSeparate (first second : TenantScope) :
    TenantsIsolated first second ↔ ScopesSeparate first second := by
  rw [← keysDisjoint_iff_scopesSeparate]
  constructor
  · intro isolated
    exact isolated.1
  · intro disjoint
    exact ⟨disjoint, observeAlone_of_keysDisjoint disjoint⟩

/-- A separator inside a tenant id moves the boundary between the ids: these
are two tenants with the same keys. -/
theorem crossTenantKeysCollide :
    ¬ ∀ first second : TenantScope,
        (first.tenantId, first.workspaceId) ≠ (second.tenantId, second.workspaceId) →
          TenantsIsolated first second := by
  intro isolating
  have isolated :=
    isolating ⟨"a", some "b:workspace:c"⟩ ⟨"a:workspace:b", some "c"⟩ (by decide)
  exact isolated.1 ["cache", "same"] ["cache", "same"] (by decide)

end PlatformArchitecture.Security
