import PlatformArchitecture.Section19.Effects

/-!
# Changes of locked capabilities

Whether a capability is locked is asked of the create request, which declares a
risk level, and not of the capability: the policy that is evaluated at approval
does not lock it either.  No change of a locked capability is stored as long as
every create request for one declares itself locked.
-/

namespace PlatformArchitecture.Section19

open PlatformArchitecture.ControlApi
open PlatformArchitecture.Foundations
open PlatformArchitecture.PolicyEngine

/-- No stored change is for a locked capability, however it is spelled. -/
def NoneLocked (state : PlatformState) : Prop :=
  ∀ row ∈ state.changes, isLockedProductionCapability row.capability = false

/-- The capability that a body asks for is not locked. -/
def CapabilityUnlocked (columns : ChangeColumns) (fields : JsObject) : Prop :=
  ∀ text ∈ (bound "capability" fields).bind columns.textColumn,
    isLockedProductionCapability text = false

instance (columns : ChangeColumns) (fields : JsObject) :
    Decidable (CapabilityUnlocked columns fields) :=
  inferInstanceAs (Decidable (∀ text ∈ (bound "capability" fields).bind columns.textColumn, _))

/-- The id of a new change, its own or the generated one, is that of a stored
change. -/
def NamesStored (columns : ChangeColumns) (context : PlatformContext)
    (state : PlatformState) (fields : JsObject) : Prop :=
  ∀ id ∈ (bound "changeId"
      (spread [("changeId", .str context.randomId)] fields)).bind columns.uuidColumn,
    (state.change id).isSome

instance (columns : ChangeColumns) (context : PlatformContext) (state : PlatformState)
    (fields : JsObject) : Decidable (NamesStored columns context state fields) :=
  inferInstanceAs (Decidable (∀ id ∈ (bound "changeId"
      (spread [("changeId", .str context.randomId)] fields)).bind columns.uuidColumn, _))

/-- A create request for a locked capability declares itself locked, is refused
by the columns, or names a change that is stored already. -/
def DeclaresLocked (columns : ChangeColumns) (environment : String) (state : PlatformState)
    (served : PlatformServed) : Prop :=
  ∀ body ∈ served.request.created,
    (spreadable body).lookup "riskLevel" = some (.str "LOCKED") ∨
      state.insertable columns
          (ControlPlaneService.newChange served.context
            (createInput environment served.context body)) = none ∨
      CapabilityUnlocked columns (spreadable body) ∨
      NamesStored columns served.context state (spreadable body)

instance (columns : ChangeColumns) (environment : String) (state : PlatformState)
    (served : PlatformServed) : Decidable (DeclaresLocked columns environment state served) :=
  inferInstanceAs (Decidable (∀ body ∈ served.request.created, _ ∨ _ ∨ _ ∨ _))

section Step

variable {columns : ChangeColumns} {environment : String} {context : PlatformContext}
  {state : PlatformState}

/-- The policy of `approve` allows every change to every operator: it is asked
about a provider change, with the approval given. -/
theorem approvalPolicy_allows (environment : String) (context : PlatformContext)
    (change : PlatformChange) : (approvalPolicy environment context change).allowed := by
  have privileged : context.operator.context.roles.any (fun role =>
      role ∈ ["platform-admin", "sre", "security-admin", "devops"]) = true := by
    obtain ⟨role, member, isPrivileged⟩ := List.any_eq_true.mp context.operator.privileged
    refine List.any_eq_true.mpr ⟨role, member, ?_⟩
    simp only [privilegedRoles, List.mem_cons, List.not_mem_nil, or_false,
      decide_eq_true_eq] at isPrivileged ⊢
    rcases isPrivileged with admin | sre | security
    · exact Or.inl admin
    · exact Or.inr (Or.inl sre)
    · exact Or.inr (Or.inr (Or.inl security))
  unfold approvalPolicy evaluatePlatformPolicy
  rw [privileged]
  simp

/-- One request stores no change of a locked capability. -/
theorem servePlatform_noneLocked (state : PlatformState) (served : PlatformServed)
    (unlockedSoFar : NoneLocked state)
    (declares : DeclaresLocked columns environment state served) :
    NoneLocked (servePlatform columns environment state served) := by
  obtain ⟨context, request, deliveries⟩ := served
  intro row member
  cases rowOrigin_of_served member with
  | kept stored => exact unlockedSoFar row stored
  | @overwritten _ stored _ unlocked accepted found =>
      exact unlockedSoFar stored (mem_of_findRow found)
  | @moved _ stored _ _ transitions found =>
      exact unlockedSoFar stored (mem_of_findRow found)
  | @inserted body _ unlocked accepted absent =>
      have created := createdFrom_of_insertable accepted
      rcases declares body rfl with locked | refused | free | names
      · exact absurd locked unlocked
      · have same : (none : Option PlatformChange) = some row := refused.symm.trans accepted
        cases same
      · exact free row.capability created.capability
      · have isStored : (state.change row.changeId).isSome :=
          names row.changeId created.changeId
        rw [absent] at isStored
        cases isStored

end Step

/-- In every run in which each create request for a locked capability declares
itself locked, no change of a locked capability is ever stored. -/
theorem noneLocked_of_declared (columns : ChangeColumns) (environment : String)
    (configs : List ConfigurationVersion) (requests : List PlatformServed)
    (declared : EveryStep (servePlatform columns environment)
      (DeclaresLocked columns environment) (platformStart configs) requests) :
    NoneLocked (run (servePlatform columns environment) (platformStart configs) requests) := by
  have empty : NoneLocked (platformStart configs) := by
    intro row member
    cases member
  exact run_invariant servePlatform_noneLocked empty declared

private def capabilityChange (capability riskLevel : String) : PlatformServed :=
  .answered "requestor" ["platform:write"] "7b1d2c3e-9a4f-4a6b-8c5d-0e1f2a3b4c5d"
    (.create (some (.obj
      [("capability", .str capability), ("oldState", .obj []), ("desiredState", .obj []),
        ("riskLevel", .str riskLevel)])))

theorem declaredLockRefused :
    NoneLocked (run (servePlatform .verbatim "production") (platformStart [])
      [capabilityChange "Postgres" "LOCKED", capabilityChange "email" "GREEN"]) :=
  noneLocked_of_declared .verbatim "production" [] _ (by decide)

/-- A change of the database that declares itself green is stored. -/
theorem undeclaredLockStored :
    ¬ ∀ (columns : ChangeColumns) (configs : List ConfigurationVersion)
        (requests : List PlatformServed),
        NoneLocked (run (servePlatform columns "production") (platformStart configs)
          requests) := by
  intro storesNone
  have none := storesNone .verbatim [] [capabilityChange "Postgres" "GREEN"]
  revert none
  unfold NoneLocked
  decide

end PlatformArchitecture.Section19
