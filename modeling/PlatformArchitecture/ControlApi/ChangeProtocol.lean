import Mathlib.Data.List.Chain
import PlatformArchitecture.ControlApi.Routes

/-!
# The approval protocol of a production change

The states that a change has been in are recorded in its audit list.  In
production `decideTransition` refuses two of the moves that the table allows:
from `IMPACT_ANALYSIS` to `APPROVED`, and an approval by the requestor.  This
module says what that makes of the audit list and the approver of a change.
-/

namespace PlatformArchitecture.ControlApi

open PlatformArchitecture.Foundations
open PlatformArchitecture.Postgres

namespace ChangeState

/-- The moves of a production change. -/
def ProductionForward (before after : ChangeState) : Prop :=
  after ∈ before.forward ∧ ¬ (before = .impactAnalysis ∧ after = .approved)

instance (before after : ChangeState) : Decidable (ProductionForward before after) :=
  inferInstanceAs (Decidable (_ ∧ _))

theorem waitingApproval_of_productionForward {before : ChangeState}
    (moves : ProductionForward before .approved) : before = .waitingApproval := by
  revert moves
  cases before <;> decide

/-- Only an approval leads into the states that allow a mutation. -/
theorem approvedBefore_of_forward {before after : ChangeState}
    (moves : after ∈ before.forward) (allows : after ∈ approvedMutationStates) :
    after = .approved ∨ before ∈ approvedMutationStates := by
  revert moves allows
  cases before <;> cases after <;> decide

end ChangeState

namespace ChangeRequest

/-- The states a change has been in. -/
def path (change : ChangeRequest) : List ChangeState :=
  change.audit.map ChangeAudit.state

/-- The change was approved out of `WAITING_APPROVAL`, by someone other than
its requestor. -/
structure ApprovedByOther (change : ChangeRequest) : Prop where
  afterWaiting : [.waitingApproval, .approved] <:+: change.path
  neverOtherwise : ∀ before after,
    change.path = before ++ .approved :: after → before.getLast? = some .waitingApproval
  approver : ∃ approver, change.approvedBy = some approver ∧ approver ≠ change.actorId

/-- What is promised of every stored production change. -/
structure FollowsProtocol (change : ChangeRequest) : Prop where
  starts : change.path.head? = some .draft
  ends : change.path.getLast? = some change.state
  steps : change.path.IsChain fun before after => after ∈ before.forward
  approval : change.state ∈ approvedMutationStates → change.ApprovedByOther

/-- The invariant of the stored changes. -/
structure Governed (change : ChangeRequest) : Prop where
  production : change.environment = "production"
  starts : change.path.head? = some .draft
  ends : change.path.getLast? = some change.state
  steps : change.path.IsChain ChangeState.ProductionForward
  approved : change.state ∈ approvedMutationStates → .approved ∈ change.path
  approver : .approved ∈ change.path →
    ∃ approver, change.approvedBy = some approver ∧ approver ≠ change.actorId

theorem getLast?_of_approved {path before after : List ChangeState}
    (starts : path.head? = some .draft)
    (steps : path.IsChain ChangeState.ProductionForward)
    (split : path = before ++ .approved :: after) :
    before.getLast? = some .waitingApproval := by
  subst path
  have joint := (List.isChain_append.mp steps).2.2
  cases last : before.getLast? with
  | none =>
      rw [List.getLast?_eq_none_iff] at last
      subst before
      simp at starts
  | some state =>
      have moves : ChangeState.ProductionForward state .approved :=
        joint state last .approved rfl
      rw [ChangeState.waitingApproval_of_productionForward moves]

theorem Governed.followsProtocol {change : ChangeRequest} (governed : change.Governed) :
    change.FollowsProtocol where
  starts := governed.starts
  ends := governed.ends
  steps := governed.steps.imp fun _ _ moves => moves.1
  approval allows := by
    have member := governed.approved allows
    refine ⟨?_, ?_, governed.approver member⟩
    · obtain ⟨before, after, split⟩ := List.append_of_mem member
      have last := getLast?_of_approved governed.starts governed.steps split
      obtain ⟨earlier, rfl⟩ := List.getLast?_eq_some_iff.mp last
      exact ⟨earlier, after, by simp [split]⟩
    · intro before after split
      exact getLast?_of_approved governed.starts governed.steps split

@[simp]
theorem path_reparsed (change : ChangeRequest) : change.reparsed.path = change.path := by
  simp [path, reparsed, Function.comp_def]

/-- What is stored is governed when what was written is. -/
theorem Governed.reparsed {change : ChangeRequest} (governed : change.Governed) :
    change.reparsed.Governed where
  production := governed.production
  starts := by
    rw [path_reparsed]
    exact governed.starts
  ends := by
    rw [path_reparsed]
    exact governed.ends
  steps := by
    rw [path_reparsed]
    exact governed.steps
  approved allows := by
    rw [path_reparsed]
    exact governed.approved allows
  approver member := by
    rw [path_reparsed] at member
    exact governed.approver member

end ChangeRequest

/-! ## The two functions that make changes -/

theorem governed_create (id now : String) {input : ChangeInput}
    (production : input.environment = "production") :
    (ChangeStateMachine.create id now input).Governed where
  production := production
  starts := rfl
  ends := rfl
  steps := List.isChain_singleton _
  approved := by
    intro allows
    simp [ChangeStateMachine.create, approvedMutationStates] at allows
  approver := by
    intro member
    simp [ChangeRequest.path, ChangeStateMachine.create] at member

/-- A checked request body makes a draft of the operator who sent it. -/
theorem requestedChange_ok {environment : String} {context : RequestContext}
    {body : Option Json} {change : ChangeRequest}
    (accepted : requestedChange environment context body = .ok change) :
    ∃ input : ChangeInput, input.environment = environment ∧
      input.actorId = context.operator.userId ∧
      change = ChangeStateMachine.create context.randomId context.now input := by
  unfold requestedChange at accepted
  simp only [bind_eq_ok] at accepted
  obtain ⟨_, -, _, -, _, -, accepted⟩ := accepted
  split at accepted
  · split at accepted
    · obtain ⟨_, -, accepted⟩ := bind_eq_ok.mp accepted
      cases accepted
      exact ⟨_, rfl, rfl, rfl⟩
    · cases accepted
  · cases accepted
    exact ⟨_, rfl, rfl, rfl⟩

/-- A requested text is `APPROVED` exactly when the state it names is. -/
theorem requestedState_approved {next : Option Json} {state : ChangeState}
    (requested : ChangeStateMachine.requestedState next = some state) :
    next = some (.str "APPROVED") ↔ state = .approved := by
  constructor
  · intro approved
    rw [approved] at requested
    exact Option.some.inj (requested.symm.trans (ChangeState.ofText?_text .approved))
  · intro approved
    subst state
    unfold ChangeStateMachine.requestedState at requested
    split at requested
    · next value =>
      have same := ChangeState.text_of_ofText? requested
      rw [← same]
      rfl
    · cases requested

/-- What a transition that is not refused makes of the change it read. -/
theorem decideTransition_ok {context : RequestContext} {current moved : ChangeRequest}
    {body : Option Json} (decided : decideTransition context current body = .ok moved) :
    ∃ state ∈ current.state.forward,
      ChangeStateMachine.requestedState (optionalProperty body "next") = some state ∧
      (current.environment = "production" →
        ChangeState.ProductionForward current.state state ∧
          (state = .approved → context.operator.userId ≠ current.actorId)) ∧
      moved = { current with
        state
        approvedBy :=
          if state = .approved then some context.operator.userId else current.approvedBy
        updatedAt := context.now
        audit := current.audit ++
          [⟨state, context.now, context.operator.userId, optionalProperty body "note"⟩] } := by
  unfold decideTransition at decided
  simp only [bind_eq_ok, throwIf_eq_ok] at decided
  obtain ⟨_, -, _, stage, _, duties, machine, transitioned, returned⟩ := decided
  obtain ⟨state, allowed, requested, rfl⟩ :=
    ChangeStateMachine.transition_ok transitioned
  have approves := requestedState_approved requested
  refine ⟨state, allowed, requested, ?_, ?_⟩
  · intro production
    refine ⟨⟨allowed, ?_⟩, ?_⟩
    · intro skips
      exact stage ⟨production, skips.1, approves.mpr skips.2⟩
    · intro approved same
      exact duties ⟨production, approves.mpr approved, same.symm⟩
  · by_cases approved : state = .approved
    · rw [if_pos (approves.mpr approved)] at returned
      cases returned
      rw [if_pos approved]
    · rw [if_neg fun text => approved (approves.mp text)] at returned
      cases returned
      rw [if_neg approved]

/-- A move that the table and the guards allow is not refused. -/
theorem decideTransition_accepts {context : RequestContext} {current : ChangeRequest}
    {body : Option Json} {state : ChangeState}
    (requested : optionalProperty body "next" = some (.str state.text))
    (allowed : state ∈ current.state.forward)
    (guards : current.environment = "production" →
      ChangeState.ProductionForward current.state state ∧
        (state = .approved → context.operator.userId ≠ current.actorId)) :
    ∃ moved, decideTransition context current body = .ok moved := by
  have named : ChangeStateMachine.requestedState (some (.str state.text)) = some state :=
    ChangeState.ofText?_text state
  have approves := requestedState_approved named
  have isObject : body.getD .null ≠ .null := by
    intro null
    cases body with
    | none => cases requested
    | some value =>
        have isNull : value = .null := null
        rw [isNull] at requested
        cases requested
  have stage : ¬ (current.environment = "production" ∧ current.state = .impactAnalysis ∧
      some (Json.str state.text) = some (.str "APPROVED")) := by
    rintro ⟨production, analysing, approved⟩
    exact (guards production).1.2 ⟨analysing, approves.mp approved⟩
  have duties : ¬ (current.environment = "production" ∧
      some (Json.str state.text) = some (.str "APPROVED") ∧
      current.actorId = context.operator.userId) := by
    rintro ⟨production, approved, same⟩
    exact (guards production).2 (approves.mp approved) same.symm
  unfold decideTransition
  rw [requested, throwIf_of_not isObject, ok_bind]
  dsimp only
  rw [throwIf_of_not stage, ok_bind, throwIf_of_not duties, ok_bind]
  unfold ChangeStateMachine.transition
  rw [named]
  simp only [if_pos allowed, ok_bind]
  exact ⟨_, rfl⟩

theorem governed_decideTransition {context : RequestContext}
    {current moved : ChangeRequest} {body : Option Json}
    (governed : current.Governed)
    (decided : decideTransition context current body = .ok moved) :
    moved.Governed := by
  obtain ⟨state, allowed, -, guards, rfl⟩ := decideTransition_ok decided
  obtain ⟨moves, separate⟩ := guards governed.production
  have entered (entry : ChangeAudit) :
      (current.audit ++ [entry]).map ChangeAudit.state =
        current.path ++ [entry.state] := by
    simp [ChangeRequest.path]
  constructor
  case production =>
    exact governed.production
  case starts =>
    rw [ChangeRequest.path, entered, List.head?_append, governed.starts]
    rfl
  case ends =>
    rw [ChangeRequest.path, entered, List.getLast?_concat]
  case steps =>
    rw [ChangeRequest.path, entered, List.isChain_append]
    refine ⟨governed.steps, List.isChain_singleton _, ?_⟩
    intro last isLast next isNext
    rw [governed.ends] at isLast
    cases isLast
    cases isNext
    exact moves
  case approved =>
    intro allows
    rw [ChangeRequest.path, entered]
    rcases ChangeState.approvedBefore_of_forward allowed allows with rfl | before
    · simp
    · exact List.mem_append_left _ (governed.approved before)
  case approver =>
    intro member
    rw [ChangeRequest.path, entered] at member
    by_cases approved : state = .approved
    · simp only [if_pos approved]
      exact ⟨context.operator.userId, rfl, separate approved⟩
    · simp only [if_neg approved]
      apply governed.approver
      simpa [Ne.symm approved] using member

end PlatformArchitecture.ControlApi
