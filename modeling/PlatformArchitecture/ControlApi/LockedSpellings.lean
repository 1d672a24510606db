import PlatformArchitecture.ControlApi.Routes
import PlatformArchitecture.PolicyEngine.CapabilitySpellings

/-!
# Requests against a locked capability

A production request that disables or stops a capability is refused before
anything is stored where the policy recognises the capability.  It recognises
every spelling of a listed name but those in which an underscore stands beside
another separator.
-/

namespace PlatformArchitecture.ControlApi

open PlatformArchitecture.Foundations
open PlatformArchitecture.PolicyEngine

/-- The body asks to disable or to stop the capability. -/
structure AsksToStop (capability : String) (body : Option Json) : Prop where
  operation : optionalProperty body "operation" ∈
    [some (.str "disable-capability"), some (.str "stop-infrastructure")]
  capability : optionalProperty body "capability" = some (.str capability)

/-- Every production request to disable or to stop the capability ends in an
error, with no statement issued. -/
def StopRefused (capability : String) : Prop :=
  ∀ context body, AsksToStop capability body →
    ∃ error, postChange "production" context body = .fail error

/-- The operations that the policy guards are the two a body may ask for. -/
theorem AsksToStop.known {capability : String} {body : Option Json}
    (asks : AsksToStop capability body) :
    ControlOperation.ofJson? (optionalProperty body "operation") ∈
      [some .disableCapability, some .stopInfrastructure] := by
  have operation := asks.operation
  simp only [List.mem_cons, List.not_mem_nil, or_false] at operation
  rcases operation with disables | stops
  · rw [disables]
    decide
  · rw [stops]
    decide

/-- No checked body stops a capability that the policy recognises. -/
theorem requestedChange_ne_ok {capability : String} {body : Option Json}
    (asks : AsksToStop capability body)
    (locked : isLockedProductionCapability capability = true) (context : RequestContext)
    (change : ChangeRequest) : requestedChange "production" context body ≠ .ok change := by
  intro accepted
  unfold requestedChange at accepted
  simp only [bind_eq_ok] at accepted
  obtain ⟨_, -, _, -, _, -, accepted⟩ := accepted
  rw [if_pos ⟨trivial, asks.known⟩, asks.capability] at accepted
  obtain ⟨_, passed, -⟩ := bind_eq_ok.mp accepted
  exact throwIf_eq_ok.mp passed locked

theorem stopRefused_of_isLocked {capability : String}
    (locked : isLockedProductionCapability capability = true) : StopRefused capability := by
  intro context body asks
  unfold postChange
  cases requireControlWrite context.operator with
  | error error => exact ⟨error, rfl⟩
  | ok _permitted =>
      cases requested : requestedChange "production" context body with
      | error error => exact ⟨error, rfl⟩
      | ok change => exact absurd requested (requestedChange_ne_ok asks locked context change)

/-- A request of an operator who may write, to disable the capability. -/
def disableBody (capability : String) : Option Json :=
  some (.obj [("operation", .str "disable-capability"), ("capability", .str capability)])

theorem disableBody_asks (capability : String) :
    AsksToStop capability (disableBody capability) where
  operation := List.mem_cons_self
  capability := rfl

def writingContext : RequestContext where
  operator := .sre "operator-1" ["platform:write"]
  now := "2024-01-01T00:00:00.000Z"
  randomId := "change-1"

/-- What becomes of that request where the policy does not recognise the
capability. -/
theorem requestedChange_disableBody {capability : String}
    (unlocked : isLockedProductionCapability capability = false) :
    requestedChange "production" writingContext (disableBody capability) =
      .ok (ChangeStateMachine.create "change-1" "2024-01-01T00:00:00.000Z"
        { operation := some (.str "disable-capability")
          capability := some (.str capability)
          desired := none
          environment := "production"
          actorId := "operator-1" }) := by
  have present : ¬ (disableBody capability).getD .null = .null := by
    simp [disableBody]
  have environment : optionalProperty (disableBody capability) "environment" = none := rfl
  have desired : optionalProperty (disableBody capability) "desired" = none := rfl
  have asks := disableBody_asks capability
  have operation : optionalProperty (disableBody capability) "operation" =
      some (.str "disable-capability") := rfl
  have known : ControlOperation.ofJson? (some (.str "disable-capability")) =
      some .disableCapability := rfl
  have unguarded : ¬ isLockedProductionCapability capability = true := by
    rw [unlocked]
    exact Bool.false_ne_true
  simp only [requestedChange, throwIf_of_not present, ok_bind, environment, operation, desired,
    asks.capability, known, throwIf_of_not unguarded]
  rfl

/-- A capability that the policy does not recognise is stopped on request. -/
theorem not_stopRefused_of_not_isLocked {capability : String}
    (unlocked : isLockedProductionCapability capability = false) : ¬ StopRefused capability := by
  intro refused
  obtain ⟨error, failed⟩ := refused writingContext _ (disableBody_asks capability)
  have permitted : requireControlWrite writingContext.operator = .ok ⟨⟩ := by
    decide
  have accepted := requestedChange_disableBody unlocked
  unfold postChange at failed
  rw [permitted, accepted] at failed
  cases failed

theorem stopRefused_iff_isLocked (capability : String) :
    StopRefused capability ↔ isLockedProductionCapability capability = true := by
  constructor
  · intro refused
    by_contra unlocked
    exact not_stopRefused_of_not_isLocked (Bool.eq_false_iff.mpr unlocked) refused
  · exact stopRefused_of_isLocked

/-- Spellings with one normal name get the same answer exactly where that name
is not listed or both or neither have an underscore beside another separator,
and a spelling of a listed name is refused exactly where it has none. -/
theorem lockedSpellings_iff (lower : LowerCasing) :
    (∀ v w, normalName lower v = normalName lower w →
      (isLockedProductionCapability v = isLockedProductionCapability w ↔
        (normalName lower v ∈ lockedNames →
          (UnderscoreBeside (trim v.toList) ↔ UnderscoreBeside (trim w.toList))))) ∧
    ∀ v, normalName lower v ∈ lockedNames →
      (StopRefused v ↔ ¬ UnderscoreBeside (trim v.toList)) := by
  constructor
  · intro v w spellings
    exact isLocked_eq_iff lower spellings
  · intro v listed
    rw [stopRefused_iff_isLocked, isLocked_iff_normalName lower]
    exact and_iff_right listed

/-- `tenant__isolation` is a spelling of `tenant_isolation` with another answer,
and it is disabled on request. -/
theorem doubled_underscore_not_locked :
    ¬ ((∀ v w, normalName .letterwise v = normalName .letterwise w →
        isLockedProductionCapability v = isLockedProductionCapability w) ∧
      ∀ v, normalName .letterwise v ∈ lockedNames → StopRefused v) := by
  rintro ⟨_sameAnswer, refused⟩
  have unlocked : isLockedProductionCapability "tenant__isolation" = false := by
    decide +kernel
  have listed : normalName .letterwise "tenant__isolation" ∈ lockedNames := by
    decide +kernel
  exact not_stopRefused_of_not_isLocked unlocked (refused _ listed)

end PlatformArchitecture.ControlApi
