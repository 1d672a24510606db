import PlatformArchitecture.ControlApi.ChangeProtocol
import PlatformArchitecture.Section19.Effects

/-!
# One approval protocol for both APIs

The moves of every change of the `/platform` routes are recorded and replayed,
operator by operator, against the transition endpoint of `/v1/control`.  The two
APIs share the transition table and the separation of duties; the endpoint also
keeps a production change from being approved out of `IMPACT_ANALYSIS`, and this
is the one guard that the `/platform` routes lack.
-/

namespace PlatformArchitecture.Section19

open PlatformArchitecture.ControlApi
open PlatformArchitecture.Foundations

/-! ## Moves and their replay -/

/-- A status that a change entered, and the operator who moved it there. -/
structure StatusMove where
  status : String
  operatorId : String
  deriving DecidableEq

/-- The store, and the moves of each change in order. -/
structure RecordedState where
  store : PlatformState
  moves : String → List StatusMove

def recordedStart (configs : List ConfigurationVersion) : RecordedState :=
  { store := platformStart configs
    moves := fun _ => [] }

/-- A change that a request wrote has entered the status it now has. -/
def recordMoves (before after : PlatformState) (userId : String)
    (moves : String → List StatusMove) (id : String) : List StatusMove :=
  match after.change id with
  | none => moves id
  | some row =>
      if before.change id = some row then moves id
      else moves id ++ [⟨row.status, userId⟩]

def recordedStep (columns : ChangeColumns) (state : RecordedState)
    (served : PlatformServed) : RecordedState :=
  let after := servePlatform columns "production" state.store served
  { store := after
    moves := recordMoves state.store after served.userId state.moves }

/-- The draft of a production change that `/v1/control` makes for an operator. -/
def productionDraft (operatorId : String) : ChangeRequest :=
  ChangeStateMachine.create "" ""
    { operation := none
      capability := none
      desired := none
      environment := "production"
      actorId := operatorId }

/-- The endpoint asked for a move by the same operator, with write permission. -/
def replayMove (change : ChangeRequest) (move : StatusMove) :
    Except ApiError ChangeRequest := do
  let operator := Operator.sre move.operatorId ["platform:write"]
  requireControlWrite operator
  decideTransition { operator, now := "", randomId := "" } change
    (some (.obj [("next", .str move.status)]))

/-- The endpoint accepts the moves of a change and arrives at the same status,
requestor and approver. -/
def AcceptedByControl (moves : List StatusMove) (row : PlatformChange) : Prop :=
  ∃ creation later final,
    moves = creation :: later ∧ creation.status = "DRAFT" ∧
      later.foldlM replayMove (productionDraft creation.operatorId) = .ok final ∧
      final.FollowsProtocol ∧ final.path.map ChangeState.text = moves.map StatusMove.status ∧
      final.state.text = row.status ∧ final.actorId = row.requestedBy ∧
      final.approvedBy = row.approvedBy

/-- Both APIs enforce the same protocol on what has been stored. -/
def SameProtocol (state : RecordedState) : Prop :=
  ∀ id row, state.store.change id = some row → AcceptedByControl (state.moves id) row

/-! ## The condition -/

/-- A body of the type that the create route declares. -/
structure WellTyped (fields : JsObject) : Prop where
  named : ∀ field ∈ fields,
    field.1 ∈ ["capability", "oldState", "desiredState", "riskLevel"]
  capability : (fields.lookup "capability").any fun value => value matches .str _
  oldState : (fields.lookup "oldState").any fun value => value matches .obj _
  desiredState : (fields.lookup "desiredState").any fun value => value matches .obj _
  riskLevel : (fields.lookup "riskLevel").any fun value =>
    value ∈ [.str "GREEN", .str "BLUE", .str "AMBER", .str "RED", .str "LOCKED"]

instance (fields : JsObject) : Decidable (WellTyped fields) :=
  decidable_of_iff
    ((∀ field ∈ fields, field.1 ∈ ["capability", "oldState", "desiredState", "riskLevel"]) ∧
      ((fields.lookup "capability").any fun value => value matches .str _) ∧
      ((fields.lookup "oldState").any fun value => value matches .obj _) ∧
      ((fields.lookup "desiredState").any fun value => value matches .obj _) ∧
      (fields.lookup "riskLevel").any fun value =>
        value ∈ [.str "GREEN", .str "BLUE", .str "AMBER", .str "RED", .str "LOCKED"])
    ⟨fun ⟨named, capability, oldState, desiredState, riskLevel⟩ =>
        ⟨named, capability, oldState, desiredState, riskLevel⟩,
      fun ⟨named, capability, oldState, desiredState, riskLevel⟩ =>
        ⟨named, capability, oldState, desiredState, riskLevel⟩⟩

/-- The stored change that an approval names. -/
def approvedChange (columns : ChangeColumns) (state : PlatformState) :
    PlatformRequest → Option PlatformChange
  | .approve id => (columns.uuid id).bind state.change
  | _ => none

/-- What is asked of a request: a create request has a well-typed body and gets
an id that is not in use, and no operator but the requestor, who is refused,
approves a change in `IMPACT_ANALYSIS`. -/
structure KeepsStage (columns : ChangeColumns) (state : RecordedState)
    (served : PlatformServed) : Prop where
  typed : ∀ body ∈ served.request.created, WellTyped (spreadable body)
  fresh : served.request.created.isSome →
    ∀ id ∈ columns.uuid served.context.randomId, state.store.change id = none
  stage : ∀ change ∈ approvedChange columns state.store served.request,
    change.status = "IMPACT_ANALYSIS" → change.requestedBy = served.userId

instance (columns : ChangeColumns) (state : RecordedState) (served : PlatformServed) :
    Decidable (KeepsStage columns state served) :=
  decidable_of_iff
    ((∀ body ∈ served.request.created, WellTyped (spreadable body)) ∧
      (served.request.created.isSome →
        ∀ id ∈ columns.uuid served.context.randomId, state.store.change id = none) ∧
      ∀ change ∈ approvedChange columns state.store served.request,
        change.status = "IMPACT_ANALYSIS" → change.requestedBy = served.userId)
    ⟨fun ⟨typed, fresh, stage⟩ => ⟨typed, fresh, stage⟩,
      fun ⟨typed, fresh, stage⟩ => ⟨typed, fresh, stage⟩⟩

/-! ## What one request does to the change under an id -/

section Change

variable {columns : ChangeColumns} {environment : String} {context : PlatformContext}
  {request : PlatformRequest} {deliveries : List Delivery} {state : PlatformState}

/-- What a request leaves under an id, when it does not leave it alone. -/
inductive ChangeWritten (columns : ChangeColumns) (environment : String)
    (context : PlatformContext) (state : PlatformState) :
    PlatformRequest → PlatformChange → PlatformChange → Prop
  | created {body : Option Json} {saved : PlatformChange}
      (accepted : state.insertable columns
        (ControlPlaneService.newChange context (createInput environment context body)) =
          some saved) :
      ChangeWritten columns environment context state (.create body) saved
        (mergedRow PlatformChange.updatedTo saved (state.change saved.changeId))
  | moved {request : PlatformRequest} {stored saved : PlatformChange} {next : ChangeState}
      (transitions : Transitions columns environment context request state stored next)
      (found : state.change saved.changeId = some stored)
      (status : saved.status = next.text)
      (approvedBy : saved.approvedBy =
        if next = .approved then some context.operator.userId else stored.approvedBy) :
      ChangeWritten columns environment context state request saved (stored.updatedTo saved)

theorem change_of_served (columns : ChangeColumns) (environment : String)
    (context : PlatformContext) (request : PlatformRequest) (deliveries : List Delivery)
    (state : PlatformState) :
    let after := servePlatform columns environment state ⟨context, request, deliveries⟩
    (∀ id, after.change id = state.change id) ∨
      ∃ saved written,
        ChangeWritten columns environment context state request saved written ∧
          ∀ id, after.change id =
            if id = saved.changeId then some written else state.change id := by
  intro after
  have sameChanges (same : after.changes = state.changes) (id : String) :
      after.change id = state.change id := by
    unfold PlatformState.change
    rw [same]
  cases servePlatform_effect columns environment state ⟨context, request, deliveries⟩ with
  | unchanged same => exact Or.inl (sameChanges (congrArg PlatformState.changes same))
  | activated _ _ _ _ _ _ _ _ changes => exact Or.inl (sameChanges changes)
  | saved x saved saves accepted changes =>
      have written (id : String) : after.change id =
          if id = saved.changeId then
            some (mergedRow PlatformChange.updatedTo saved (state.change saved.changeId))
          else state.change id := by
        unfold PlatformState.change
        rw [changes]
        exact findRow_upsertRow fun stored same => same
      cases saves with
      | created unlocked => exact Or.inr ⟨saved, _, .created accepted, written⟩
      | moved transitions =>
          obtain ⟨found, status, approvedBy⟩ := transition_row transitions accepted
          rw [found] at written
          exact Or.inr ⟨saved, _, .moved transitions found status approvedBy, written⟩

end Change

/-! ## Creation and moves -/

section Replay

variable {columns : ChangeColumns} {context : PlatformContext} {request : PlatformRequest}
  {state : PlatformState} {row stored saved : PlatformChange} {moves : List StatusMove}

/-- The property of `AcceptedByControl` that each move extends. -/
def ReplaysTo (moves : List StatusMove) (row : PlatformChange) (final : ChangeRequest) :
    Prop :=
  ∃ creation later,
    moves = creation :: later ∧ creation.status = "DRAFT" ∧
      later.foldlM replayMove (productionDraft creation.operatorId) = .ok final ∧
      final.Governed ∧ final.path.map ChangeState.text = moves.map StatusMove.status ∧
      final.state.text = row.status ∧ final.actorId = row.requestedBy ∧
      final.approvedBy = row.approvedBy

theorem acceptedByControl_of_replaysTo {final : ChangeRequest}
    (replays : ReplaysTo moves row final) : AcceptedByControl moves row := by
  obtain ⟨creation, later, split, draft, folded, governed, path, rest⟩ := replays
  exact ⟨creation, later, final, split, draft, folded, governed.followsProtocol, path, rest⟩

/-- A well-typed body supplies no other property than the four of its type. -/
theorem WellTyped.lookup_none {fields : JsObject} (typed : WellTyped fields) {key : String}
    (other : key ∉ ["capability", "oldState", "desiredState", "riskLevel"]) :
    fields.lookup key = none := by
  rw [List.lookup_eq_none_iff]
  intro field member
  simp only [bne_iff_ne, ne_eq]
  rintro rfl
  exact other (typed.named field member)

theorem typed_created {environment : String} {body : Option Json}
    (typed : WellTyped (spreadable body))
    (accepted : state.insertable columns
      (ControlPlaneService.newChange context (createInput environment context body)) =
        some saved) :
    saved.status = "DRAFT" ∧ saved.requestedBy = context.operator.userId ∧
      saved.approvedBy = none ∧ saved.environment = environment ∧
      columns.uuid context.randomId = some saved.changeId := by
  have created := createdFrom_of_insertable accepted
  have noStatus : (spreadable body).lookup "status" = none :=
    typed.lookup_none (by decide)
  have noRequestor : (spreadable body).lookup "requestedBy" = none :=
    typed.lookup_none (by decide)
  have noApprover : (spreadable body).lookup "approvedBy" = none :=
    typed.lookup_none (by decide)
  have noEnvironment : (spreadable body).lookup "environment" = none :=
    typed.lookup_none (by decide)
  have noId : (spreadable body).lookup "changeId" = none :=
    typed.lookup_none (by decide)
  refine ⟨?_, ?_, ?_, ?_, ?_⟩
  · simpa only [if_pos noStatus] using created.status
  · simpa only [if_pos noRequestor] using created.requestedBy
  · apply created.approvedBy
    rw [bound, noApprover, Option.filter_none]
  · simpa only [if_pos noEnvironment] using created.environment
  · have written := created.changeId
    rw [bound_spread, if_pos noId, bound_singleton, Option.bind_some] at written
    unfold ChangeColumns.uuidColumn at written
    rwa [columns.written_str] at written

/-- A new change replays to the draft of its operator. -/
theorem replaysTo_created (draft : saved.status = "DRAFT")
    (requestor : saved.requestedBy = context.operator.userId)
    (noApprover : saved.approvedBy = none) :
    ReplaysTo [⟨saved.status, context.operator.userId⟩] saved
      (productionDraft context.operator.userId) := by
  refine ⟨_, [], rfl, draft, rfl, governed_create _ _ rfl, ?_, draft.symm, requestor.symm,
    noApprover.symm⟩
  have path : (productionDraft context.operator.userId).path.map ChangeState.text =
      ["DRAFT"] := rfl
  rw [path, List.map_singleton, draft]

/-- A move that the service and the stage condition let through is accepted by
the endpoint, which arrives where the service does. -/
theorem replaysTo_moved {environment : String} {next : ChangeState} {final : ChangeRequest}
    (replays : ReplaysTo moves stored final) (production : stored.environment = "production")
    (transitions : Transitions columns environment context request state stored next)
    (stage : next = .approved → stored.status = "IMPACT_ANALYSIS" →
      stored.requestedBy = context.operator.userId)
    (status : saved.status = next.text)
    (approvedBy : saved.approvedBy =
      if next = .approved then some context.operator.userId else stored.approvedBy) :
    ∃ moved, ReplaysTo (moves ++ [⟨saved.status, context.operator.userId⟩])
      (stored.updatedTo saved) moved := by
  obtain ⟨creation, later, split, draft, folded, governed, path, sameStatus, requestor,
    approver⟩ := replays
  obtain ⟨⟨current, isCurrent, allowed⟩, separate⟩ := checkTransition_ok transitions.checked
  have isState : current = final.state := by
    apply ChangeState.text_injective
    rw [isCurrent, sameStatus]
    rfl
  subst current
  have guards : final.environment = "production" →
      ChangeState.ProductionForward final.state next ∧
        (next = .approved → context.operator.userId ≠ final.actorId) := by
    intro _
    have duties : next = .approved → context.operator.userId ≠ final.actorId := by
      intro approves
      rw [requestor]
      exact separate approves production
    refine ⟨⟨allowed, ?_⟩, duties⟩
    rintro ⟨analysing, approves⟩
    have inAnalysis : stored.status = "IMPACT_ANALYSIS" := by
      rw [← sameStatus, analysing]
      rfl
    apply duties approves
    rw [requestor, stage approves inAnalysis]
  let operator := Operator.sre context.operator.userId ["platform:write"]
  have decided : ∃ moved, decideTransition { operator, now := "", randomId := "" } final
      (some (.obj [("next", .str next.text)])) = .ok moved :=
    decideTransition_accepts rfl allowed guards
  obtain ⟨moved, decided⟩ := decided
  have governedNext := governed_decideTransition governed decided
  obtain ⟨entered, -, named, -, outcome⟩ := decideTransition_ok decided
  have isNext : entered = next := by
    have same : some next = some entered :=
      (ChangeState.ofText?_text next).symm.trans named
    exact (Option.some.inj same).symm
  subst entered
  have writes : requireControlWrite operator = .ok () :=
    throwIf_of_not (fun refused => refused (Or.inl List.mem_cons_self))
  have replayed : replayMove final ⟨saved.status, context.operator.userId⟩ = .ok moved := by
    unfold replayMove
    rw [status]
    dsimp only
    rw [writes, ok_bind]
    exact decided
  refine ⟨moved, creation, later ++ [⟨saved.status, context.operator.userId⟩], ?_, draft, ?_,
    governedNext, ?_, ?_, ?_, ?_⟩
  · rw [split, List.cons_append]
  · rw [List.foldlM_append, folded, ok_bind, List.foldlM_cons, replayed, ok_bind]
    rfl
  · have longer : moved.path = final.path ++ [next] := by
      rw [outcome]
      simp [ChangeRequest.path]
    rw [longer, List.map_append, List.map_append, path, List.map_singleton,
      List.map_singleton, status]
  · rw [outcome]
    exact status.symm
  · rw [outcome]
    exact requestor
  · have sameApprover : (stored.updatedTo saved).approvedBy = saved.approvedBy := rfl
    rw [outcome, sameApprover, approvedBy, ← approver]
    rfl

end Replay

/-! ## Runs -/

section Runs

variable {columns : ChangeColumns}

/-- The invariant: a change that is stored is a production change whose moves
replay to it. -/
structure MovesReplay (state : RecordedState) : Prop where
  unwritten : ∀ id, state.store.change id = none → state.moves id = []
  written : ∀ id row, state.store.change id = some row →
    row.environment = "production" ∧ ∃ final, ReplaysTo (state.moves id) row final

theorem recordMoves_same {before after : PlatformState} {userId id : String}
    {moves : String → List StatusMove} (same : after.change id = before.change id) :
    recordMoves before after userId moves id = moves id := by
  unfold recordMoves
  rw [same]
  cases before.change id with
  | none => rfl
  | some row => exact if_pos rfl

theorem recordMoves_written {before after : PlatformState} {userId id : String}
    {moves : String → List StatusMove} {row : PlatformChange}
    (isWritten : after.change id = some row) (differs : before.change id ≠ some row) :
    recordMoves before after userId moves id = moves id ++ [⟨row.status, userId⟩] := by
  unfold recordMoves
  rw [isWritten]
  exact if_neg differs

/-- The status after a move is not the status before. -/
theorem status_of_move_ne {state next : ChangeState} (allowed : next ∈ state.forward) :
    next.text ≠ state.text := by
  revert allowed
  cases state <;> cases next <;> decide

/-- A request that leaves every other change alone keeps the invariant when the
change it wrote replays. -/
theorem MovesReplay.update {state : RecordedState} {served : PlatformServed} {key : String}
    {row : PlatformChange} (replay : MovesReplay state)
    (after : ∀ id, (servePlatform columns "production" state.store served).change id =
      if id = key then some row else state.store.change id)
    (differs : state.store.change key ≠ some row)
    (production : row.environment = "production")
    (replays : ∃ final, ReplaysTo (state.moves key ++ [⟨row.status, served.userId⟩]) row
      final) :
    MovesReplay (recordedStep columns state served) := by
  have other {id : String} (different : id ≠ key) :
      (servePlatform columns "production" state.store served).change id =
        state.store.change id := by
    rw [after id, if_neg different]
  have own : (servePlatform columns "production" state.store served).change key =
      some row := by
    rw [after key, if_pos rfl]
  constructor
  · intro id absent
    by_cases same : id = key
    · rw [same] at absent
      have present := own.symm.trans absent
      cases present
    · have kept : (recordedStep columns state served).moves id = state.moves id :=
        recordMoves_same (other same)
      rw [kept]
      exact replay.unwritten id ((other same).symm.trans absent)
  · intro id found isFound
    by_cases same : id = key
    · subst id
      have isRow : row = found := Option.some.inj (own.symm.trans isFound)
      subst found
      have recorded : (recordedStep columns state served).moves key =
          state.moves key ++ [⟨row.status, served.userId⟩] :=
        recordMoves_written own differs
      rw [recorded]
      exact ⟨production, replays⟩
    · have kept : (recordedStep columns state served).moves id = state.moves id :=
        recordMoves_same (other same)
      rw [kept]
      exact replay.written id found ((other same).symm.trans isFound)

/-- One request keeps the invariant. -/
theorem recordedStep_replay (state : RecordedState) (served : PlatformServed)
    (replay : MovesReplay state) (keeps : KeepsStage columns state served) :
    MovesReplay (recordedStep columns state served) := by
  obtain ⟨context, request, deliveries⟩ := served
  rcases change_of_served columns "production" context request deliveries state.store with
    same | ⟨saved, written, writes, after⟩
  · constructor
    · intro id absent
      have kept : (recordedStep columns state ⟨context, request, deliveries⟩).moves id =
          state.moves id := recordMoves_same (same id)
      rw [kept]
      exact replay.unwritten id ((same id).symm.trans absent)
    · intro id row found
      have kept : (recordedStep columns state ⟨context, request, deliveries⟩).moves id =
          state.moves id := recordMoves_same (same id)
      rw [kept]
      exact replay.written id row ((same id).symm.trans found)
  · cases writes with
    | @created body _ accepted =>
        obtain ⟨draft, requestor, noApprover, production, generated⟩ :=
          typed_created (keeps.typed body rfl) accepted
        have absent : state.store.change saved.changeId = none :=
          keeps.fresh rfl saved.changeId generated
        rw [absent, mergedRow_none] at after
        apply replay.update after
        · rw [absent]
          intro impossible
          cases impossible
        · exact production
        · rw [replay.unwritten saved.changeId absent]
          exact ⟨_, replaysTo_created draft requestor noApprover⟩
    | @moved _ stored _ next transitions found status approvedBy =>
        obtain ⟨production, final, replays⟩ := replay.written saved.changeId stored found
        obtain ⟨⟨current, isCurrent, allowed⟩, -⟩ := checkTransition_ok transitions.checked
        apply replay.update after
        · rw [found]
          intro same
          have rows : stored = stored.updatedTo saved := Option.some.inj same
          apply status_of_move_ne allowed
          rw [isCurrent, ← status]
          exact (congrArg PlatformChange.status rows).symm
        · exact production
        · have stage : next = .approved → stored.status = "IMPACT_ANALYSIS" →
              stored.requestedBy = context.operator.userId := by
            intro approves inAnalysis
            obtain ⟨id, asked, changeId, isUuid, isStored⟩ := transitions.asked
            apply keeps.stage stored ?_ inAnalysis
            cases request <;>
              simp only [PlatformRequest.transition, Option.some.injEq, Prod.mk.injEq,
                reduceCtorEq] at asked
            all_goals subst approves
            all_goals simp_all [approvedChange]
          exact replaysTo_moved replays production transitions stage status approvedBy

/-- In every run of well-typed requests in which no change in `IMPACT_ANALYSIS`
is approved, each change goes through statuses that the endpoint of
`/v1/control` accepts, from the same operators. -/
theorem sameProtocol_of_keepsStage (columns : ChangeColumns)
    (configs : List ConfigurationVersion) (requests : List PlatformServed)
    (keeps : EveryStep (recordedStep columns) (KeepsStage columns) (recordedStart configs)
      requests) :
    SameProtocol (run (recordedStep columns) (recordedStart configs) requests) := by
  have start : MovesReplay (recordedStart configs) := by
    constructor
    · intro id _
      rfl
    · intro id row found
      cases found
  have replay := run_invariant recordedStep_replay start keeps
  intro id row found
  obtain ⟨-, final, replays⟩ := replay.written id row found
  exact acceptedByControl_of_replaysTo replays

end Runs

private def movedChange : String :=
  "9c8b7a65-4d3e-4f2a-9b1c-0d0e0f1a2b3c"

private def movedBy (userId : String) (request : PlatformRequest) : PlatformServed :=
  .answered userId ["platform:write"] movedChange request

/-- A change up to its impact analysis. -/
private def analysed : List PlatformServed :=
  [movedBy "requestor" (.create (some (.obj
      [("capability", .str "email"), ("oldState", .obj []), ("desiredState", .obj []),
        ("riskLevel", .str "GREEN")]))),
    movedBy "requestor" (.validate movedChange none),
    movedBy "requestor" (.plan movedChange)]

/-- The requestor's own approval is refused by both APIs. -/
theorem selfApprovalRefusedByBoth :
    SameProtocol (run (recordedStep .verbatim) (recordedStart [])
      (analysed ++ [movedBy "requestor" (.approve movedChange)])) :=
  sameProtocol_of_keepsStage .verbatim [] _ (by decide)

/-- An approval by another operator skips the stage that the endpoint asks for. -/
theorem approvalStageSkipped :
    ¬ ∀ (columns : ChangeColumns) (configs : List ConfigurationVersion)
        (requests : List PlatformServed),
        EveryStep (recordedStep columns)
          (fun _ served => ∀ body ∈ served.request.created, WellTyped (spreadable body))
          (recordedStart configs) requests →
          SameProtocol (run (recordedStep columns) (recordedStart configs) requests) := by
  intro sameInEveryRun
  let requests := analysed ++ [movedBy "approver" (.approve movedChange)]
  let final := run (recordedStep .verbatim) (recordedStart []) requests
  have same := sameInEveryRun .verbatim [] requests (by decide)
  have stored : (final.store.change movedChange).isSome := by
    decide
  obtain ⟨row, isRow⟩ := Option.isSome_iff_exists.mp stored
  obtain ⟨creation, later, replayed, split, -, accepted, -⟩ := same movedChange row isRow
  have refused : ∀ creation later, final.moves movedChange = creation :: later →
      (later.foldlM replayMove (productionDraft creation.operatorId)).toOption = none := by
    intro creation later split
    have moves : final.moves movedChange =
        [⟨"DRAFT", "requestor"⟩, ⟨"VALIDATING", "requestor"⟩,
          ⟨"IMPACT_ANALYSIS", "requestor"⟩, ⟨"APPROVED", "approver"⟩] := by
      decide
    rw [moves] at split
    cases split
    decide
  have none := refused creation later split
  rw [accepted] at none
  cases none

end PlatformArchitecture.Section19
