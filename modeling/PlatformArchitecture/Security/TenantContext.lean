import Mathlib.Data.List.Basic

/-!
# Tenant contexts and the keys made from them

`tenantKey` joins the tenant, the workspace and the parts of a key with `:`
and escapes none of them.  The lemmas split a key into the part that names the
scope and the rest, which decides when two scopes can produce the same key.
-/

namespace PlatformArchitecture.Security

/-- `Pick<TenantContext, 'tenantId' | 'workspaceId'>`. -/
structure TenantScope where
  tenantId : String
  workspaceId : Option String
  deriving DecidableEq, Repr

structure TenantContext extends TenantScope where
  userId : String
  roles : List String
  permissions : List String
  sessionId : Option String
  mfa : Bool
  deriving DecidableEq, Repr

/-- `ctx.workspaceId ?? '_root'`. -/
def TenantScope.workspace (ctx : TenantScope) : String :=
  ctx.workspaceId.getD "_root"

def tenantKey (ctx : TenantScope) (parts : List String) : String :=
  ":".intercalate (["tenant", ctx.tenantId, "workspace", ctx.workspace] ++ parts)

/-- The beginning of every key of a scope. -/
def scopePath (ctx : TenantScope) : String :=
  ":".intercalate ["tenant", ctx.tenantId, "workspace", ctx.workspace]

theorem tenantKey_nil (ctx : TenantScope) :
    tenantKey ctx [] = scopePath ctx :=
  rfl

theorem tenantKey_cons (ctx : TenantScope) (part : String) (parts : List String) :
    tenantKey ctx (part :: parts) =
      scopePath ctx ++ ":" ++ ":".intercalate (part :: parts) := by
  unfold tenantKey scopePath
  exact
    String.intercalate_append_of_ne_nil
      (List.cons_ne_nil _ _) (List.cons_ne_nil _ _)

/-- The path of one scope, followed by a separator, begins the path of the
other. -/
def PathWithin (outer inner : TenantScope) : Prop :=
  (scopePath outer ++ ":").toList <+: (scopePath inner).toList

instance (outer inner : TenantScope) : Decidable (PathWithin outer inner) :=
  inferInstanceAs (Decidable (_ <+: _))

/-- Neither path equals the other or continues it at a separator. -/
def ScopesSeparate (first second : TenantScope) : Prop :=
  scopePath first ≠ scopePath second ∧
    ¬ PathWithin first second ∧ ¬ PathWithin second first

instance (first second : TenantScope) : Decidable (ScopesSeparate first second) :=
  inferInstanceAs (Decidable (_ ∧ _ ∧ _))

/-- No key of one scope is a key of the other. -/
def KeysDisjoint (first second : TenantScope) : Prop :=
  ∀ parts otherParts, tenantKey first parts ≠ tenantKey second otherParts

/-- Every text is the tail of some key: parts are not escaped. -/
theorem tenantKey_singleton (ctx : TenantScope) (rest : String) :
    tenantKey ctx [rest] = scopePath ctx ++ ":" ++ rest := by
  rw [tenantKey_cons, String.intercalate_singleton]

private theorem collide_of_pathWithin {outer inner : TenantScope}
    (within : PathWithin outer inner) :
    ∃ rest, tenantKey outer [rest] = tenantKey inner [] := by
  obtain ⟨rest, split⟩ := within
  refine ⟨String.ofList rest, ?_⟩
  rw [tenantKey_singleton, tenantKey_nil]
  apply String.toList_injective
  simpa using split

/-- Two paths that both begin one text, each followed by a separator, are
equal or one is within the other. -/
private theorem paths_comparable {first second : TenantScope} {text : List Char}
    (firstBegins : (scopePath first ++ ":").toList <+: text)
    (secondBegins : (scopePath second ++ ":").toList <+: text) :
    scopePath first = scopePath second ∨
      PathWithin first second ∨ PathWithin second first := by
  have shorten : ∀ outer inner : TenantScope,
      (scopePath outer ++ ":").toList <+: (scopePath inner ++ ":").toList →
        scopePath outer = scopePath inner ∨ PathWithin outer inner := by
    intro outer inner begins
    have splitEnd :
        (scopePath inner ++ ":").toList = (scopePath inner).toList ++ [':'] := by
      rw [String.toList_append]
      rfl
    have splitOuter :
        (scopePath outer ++ ":").toList = (scopePath outer).toList ++ [':'] := by
      rw [String.toList_append]
      rfl
    rw [splitEnd, List.prefix_concat_iff] at begins
    rcases begins with whole | proper
    · left
      rw [splitOuter] at whole
      exact String.toList_injective (List.append_cancel_right whole)
    · exact Or.inr proper
  rcases List.prefix_or_prefix_of_prefix firstBegins secondBegins with
    begins | begins
  · rcases shorten first second begins with same | within
    · exact Or.inl same
    · exact Or.inr (Or.inl within)
  · rcases shorten second first begins with same | within
    · exact Or.inl same.symm
    · exact Or.inr (Or.inr within)

private theorem begins_tenantKey_cons (ctx : TenantScope)
    (part : String) (parts : List String) :
    (scopePath ctx ++ ":").toList <+: (tenantKey ctx (part :: parts)).toList := by
  rw [tenantKey_cons, String.toList_append (s := scopePath ctx ++ ":")]
  exact List.prefix_append _ _

/-- Keys of two scopes never coincide exactly when the scope paths are
separate. -/
theorem keysDisjoint_iff_scopesSeparate (first second : TenantScope) :
    KeysDisjoint first second ↔ ScopesSeparate first second := by
  constructor
  · intro disjoint
    refine ⟨?_, ?_, ?_⟩
    · intro same
      exact disjoint [] [] same
    · intro within
      obtain ⟨rest, collide⟩ := collide_of_pathWithin within
      exact disjoint [rest] [] collide
    · intro within
      obtain ⟨rest, collide⟩ := collide_of_pathWithin within
      exact disjoint [] [rest] collide.symm
  · intro separate parts otherParts collide
    obtain ⟨different, notWithin, notWithin'⟩ := separate
    cases parts with
    | nil =>
        cases otherParts with
        | nil =>
            exact different collide
        | cons part rest =>
            apply notWithin'
            have begins := begins_tenantKey_cons second part rest
            rw [← collide, tenantKey_nil] at begins
            exact begins
    | cons part rest =>
        have begins := begins_tenantKey_cons first part rest
        cases otherParts with
        | nil =>
            apply notWithin
            rw [collide, tenantKey_nil] at begins
            exact begins
        | cons otherPart otherRest =>
            have otherBegins := begins_tenantKey_cons second otherPart otherRest
            rw [← collide] at otherBegins
            rcases paths_comparable begins otherBegins with
              same | within | within
            · exact different same
            · exact notWithin within
            · exact notWithin' within

end PlatformArchitecture.Security
