import PlatformArchitecture.ControlApi.ChangeProtocol
import PlatformArchitecture.Foundations.Concurrent
import PlatformArchitecture.Foundations.Versions

/-!
# Concurrent transitions of changes

A transition reads the change, decides, and writes the whole payload back; the
statements of other requests may come in between.  Besides the store, the
shared state keeps what each request has read and which version replaced which.
No audit entry is lost in the schedules in which every request still finds the
version it read when it writes.
-/

namespace PlatformArchitecture.ControlApi

open PlatformArchitecture.Foundations
open PlatformArchitecture.Postgres

/-- A `POST /v1/control/changes/:id/transition`. -/
structure TransitionRequest where
  context : RequestContext
  id : String
  body : Option Json

abbrev TransitionRequest.program (request : TransitionRequest) :
    ControlProgram ControlAnswer :=
  postTransition request.context request.id request.body

/-- The stored payload under a key. -/
def ControlState.change (state : ControlState) (changeId : String) :
    Option ChangeRequest :=
  (findRow ChangeRow.changeId changeId state.changes).map ChangeRow.payload

abbrev ChangeVersion (Pid : Type) :=
  Version String Pid ChangeRequest

/-- The store, the change that each request has read, and the versions written
so far. -/
structure TransitionState (Pid : Type) where
  control : ControlState
  reads : Pid → Option ChangeRequest
  history : List (ChangeVersion Pid)

section Model

variable {Pid : Type} [DecidableEq Pid]

/-- The versions after a statement that writes a change. -/
def writtenVersions (types : ColumnTypes) (pid : Pid) (delivery : Delivery)
    (change : ChangeRequest) (state : TransitionState Pid) : List (ChangeVersion Pid) :=
  match delivery, types.uuid change.id with
  | .refused, _ => state.history
  | _, none => state.history
  | _, some changeId =>
      state.history ++ [⟨changeId, pid, state.control.change changeId, change.reparsed⟩]

/-- A statement of the store, with what it adds to the reads and versions. -/
def transitionOutcome (types : ColumnTypes) (pid : Pid) (delivery : Delivery)
    (statement : ControlStatement) (state : TransitionState Pid) :
    Except ApiError statement.Reply × TransitionState Pid :=
  let answer := (controlDatabase types).attempt delivery statement state.control
  match statement, answer with
  | .selectChange _, (.ok current, control) =>
      (.ok current,
        { state with control, reads := Function.update state.reads pid current })
  | .upsertChange change, (reply, control) =>
      (reply, { state with control, history := writtenVersions types pid delivery change state })
  | _, (reply, control) => (reply, { state with control })

def transitionServer (types : ColumnTypes) :
    Server Pid Delivery (TransitionState Pid) ControlStatement ControlStatement.Reply
      ApiError where
  outcome pid delivery statement state :=
    some (transitionOutcome types pid delivery statement state)
  disconnect _ state := state

abbrev TransitionWorld (Pid : Type) :=
  World Pid (TransitionState Pid) ControlStatement ControlStatement.Reply ApiError
    ControlAnswer

/-- The requests before their first statement, over what a `jsonb` column can
hold. -/
def transitionStart (control : ControlState) (requests : Pid → TransitionRequest) :
    TransitionWorld Pid :=
  World.start
    { control := { control with
        changes := control.changes.map fun row =>
          { row with payload := row.payload.reparsed } }
      reads := fun _ => none
      history := [] }
    fun pid => (requests pid).program

/-- The request that writes next, with the change it writes. -/
def nextWrite (world : TransitionWorld Pid) :
    Event Pid Delivery → Option (Pid × ChangeRequest)
  | .statement pid _ =>
      match world.programs pid with
      | some (.perform (.upsertChange change) _) => some (pid, change)
      | _ => none
  | _ => none

/-- A request that writes a change replaces the version it has read. -/
def ReplacesOwnRead (types : ColumnTypes) (world : TransitionWorld Pid)
    (event : Event Pid Delivery) : Prop :=
  ∀ write ∈ nextWrite world event, ∀ changeId ∈ types.uuid write.2.id,
    world.shared.control.change changeId = world.shared.reads write.1

instance (types : ColumnTypes) (world : TransitionWorld Pid) (event : Event Pid Delivery) :
    Decidable (ReplacesOwnRead types world event) :=
  inferInstanceAs (Decidable (∀ write ∈ nextWrite world event, _))

end Model

/-- A version is a step of the table from the version it replaced, and appends
an entry of the operator. -/
def AppendsStep {Pid : Type} (operatorId : String) (version : ChangeVersion Pid)
    (entry : ChangeAudit) : Prop :=
  ∃ before, version.replaced = some before ∧
    version.value.state ∈ before.state.forward ∧
    version.value.audit = before.audit ++ [entry] ∧
    entry.state = version.value.state ∧ entry.actorId = operatorId

/-- The version that a successful request wrote is such a step, and its entry
is in every version written since and in the stored one. -/
def TransitionKept {Pid : Type} (request : TransitionRequest) (pid : Pid)
    (state : TransitionState Pid) (answer : ControlAnswer) : Prop :=
  ∃ earlier version later next entry,
    state.history = earlier ++ version :: later ∧
      version.writer = pid ∧ answer = .change next ∧ version.value = next.reparsed ∧
      AppendsStep request.context.operator.userId version entry ∧
      (∀ successor ∈ later, successor.key = version.key → entry ∈ successor.value.audit) ∧
      ∃ current, state.control.change version.key = some current ∧ entry ∈ current.audit

/-! ## The stages of a request -/

/-- What is left of a request once it has read the change. -/
def afterRead (request : TransitionRequest) :
    Option ChangeRequest → ControlProgram ControlAnswer
  | none => throw ⟨404, "CHANGE_NOT_FOUND", "Change request not found"⟩
  | some current => do
      let next ← Program.check (decideTransition request.context current request.body)
      PostgresControlStore.saveChange next
      return .change next

def savedEntry (change : ChangeRequest) : JsObject :=
  [("type", .str "change.saved"), ("changeId", .str change.id),
    ("actorId", .str change.actorId), ("state", .str change.state.text)]

inductive TransitionStage where
  | reading
  | writing (next : ChangeRequest)
  | auditing (next : ChangeRequest)
  | answered (next : ChangeRequest)
  | failed (error : ApiError)

def TransitionStage.program (request : TransitionRequest) :
    TransitionStage → ControlProgram ControlAnswer
  | .reading => Program.branch (.selectChange request.id) (afterRead request) Program.fail
  | .writing next =>
      Program.branch (.upsertChange next)
        (fun _ =>
          Program.branch (.insertAudit (savedEntry next))
            (fun _ => Program.done (.change next)) Program.fail)
        Program.fail
  | .auditing next =>
      Program.branch (.insertAudit (savedEntry next))
        (fun _ => Program.done (.change next)) Program.fail
  | .answered next => Program.done (.change next)
  | .failed error => Program.fail error

/-- What a request relies on at a stage. -/
def TransitionStage.Holds {Pid : Type} (request : TransitionRequest) (pid : Pid)
    (state : TransitionState Pid) : TransitionStage → Prop
  | .reading | .failed _ => True
  | .writing next =>
      ∃ current, state.reads pid = some current ∧ current.reparsed = current ∧
        decideTransition request.context current request.body = .ok next
  | .auditing next | .answered next =>
      ∃ version ∈ state.history, version.writer = pid ∧ version.value = next.reparsed

def AtTransitionStage {Pid : Type} (requests : Pid → TransitionRequest) (pid : Pid)
    (state : TransitionState Pid) (program : ControlProgram ControlAnswer) : Prop :=
  ∃ stage : TransitionStage,
    program = stage.program (requests pid) ∧ stage.Holds (requests pid) pid state

theorem postTransition_stage (request : TransitionRequest) :
    request.program = TransitionStage.program request .reading ∨
      ∃ error, request.program = TransitionStage.program request (.failed error) := by
  unfold TransitionRequest.program postTransition
  cases requireControlWrite request.context.operator with
  | error error => exact Or.inr ⟨error, rfl⟩
  | ok allowed =>
      left
      change (awaitControl (.selectChange request.id) >>= _) = _
      rw [Program.call_bind]
      rfl

theorem afterRead_stage (request : TransitionRequest) (current : Option ChangeRequest) :
    (∃ change next, current = some change ∧
        decideTransition request.context change request.body = .ok next ∧
        afterRead request current = TransitionStage.program request (.writing next)) ∨
      ∃ error, afterRead request current = TransitionStage.program request (.failed error) := by
  cases current with
  | none => exact Or.inr ⟨_, rfl⟩
  | some change =>
      cases decided : decideTransition request.context change request.body with
      | error error =>
          refine Or.inr ⟨error, ?_⟩
          simp [afterRead, decided, TransitionStage.program]
      | ok next =>
          refine Or.inl ⟨change, next, rfl, decided, ?_⟩
          simp only [afterRead, decided, Program.check_ok, Program.done_bind]
          unfold PostgresControlStore.saveChange
          rw [Program.call_bind, Program.branch_bind]
          unfold TransitionStage.program
          congr 1
          funext written
          unfold PostgresControlStore.recordAudit
          rw [Program.call_bind]
          rfl

/-! ## What a statement does to the versions -/

section Statements

variable {Pid : Type} [DecidableEq Pid] {types : ColumnTypes} {pid : Pid}
  {delivery : Delivery} {state after : TransitionState Pid}

theorem transitionOutcome_selectChange {id : String}
    {reply : Except ApiError (Option ChangeRequest)}
    (outcome : transitionOutcome types pid delivery (.selectChange id) state =
      (reply, after)) :
    (after = state ∧ ∃ error, reply = .error error) ∨
      ∃ changeId, reply = .ok (state.control.change changeId) ∧
        after = { state with
          reads := Function.update state.reads pid (state.control.change changeId) } := by
  unfold transitionOutcome at outcome
  rcases (controlDatabase types).attempt_cases delivery (.selectChange id) state.control with
    ⟨error, failed⟩ | ⟨current, control, executed, told | lost⟩
  · rw [failed] at outcome
    cases outcome
    exact Or.inl ⟨rfl, error, rfl⟩
  · obtain ⟨changeId, -, rfl, rfl⟩ := executeControl_selectChange executed
    rw [told] at outcome
    cases outcome
    exact Or.inr ⟨changeId, rfl, rfl⟩
  · obtain ⟨changeId, -, rfl, rfl⟩ := executeControl_selectChange executed
    rw [lost] at outcome
    cases outcome
    exact Or.inl ⟨rfl, _, rfl⟩

theorem transitionOutcome_upsertChange {change : ChangeRequest}
    {reply : Except ApiError Unit}
    (outcome : transitionOutcome types pid delivery (.upsertChange change) state =
      (reply, after)) :
    (after = state ∧ ∃ error, reply = .error error) ∨
      ∃ changeId, types.uuid change.id = some changeId ∧
        after = { state with
          control := { state.control with
            changes :=
              upsertRow ChangeRow.changeId replaceRow ⟨changeId, change.reparsed⟩
                state.control.changes }
          history := state.history ++
            [⟨changeId, pid, state.control.change changeId, change.reparsed⟩] } := by
  have notUuid (isNone : types.uuid change.id = none) :
      executeControl types (.upsertChange change) state.control = .error .internal := by
    simp only [executeControl, isNone]
  have isUuid {changeId : String} (isSome : types.uuid change.id = some changeId) :
      executeControl types (.upsertChange change) state.control =
        .ok ((), { state.control with
          changes :=
            upsertRow ChangeRow.changeId replaceRow ⟨changeId, change.reparsed⟩
              state.control.changes }) := by
    simp only [executeControl, isSome]
  cases uuid : types.uuid change.id with
  | none =>
      left
      cases delivery with
      | refused | answered | unacknowledged =>
          simp [transitionOutcome, writtenVersions, Database.attempt, controlDatabase,
            notUuid uuid, uuid] at outcome
          exact ⟨outcome.2.symm, _, outcome.1.symm⟩
  | some changeId =>
      cases delivery with
      | refused =>
          left
          simp [transitionOutcome, writtenVersions, Database.attempt, controlDatabase]
            at outcome
          exact ⟨outcome.2.symm, _, outcome.1.symm⟩
      | answered | unacknowledged =>
          right
          simp [transitionOutcome, writtenVersions, Database.attempt, controlDatabase,
            isUuid uuid, uuid] at outcome
          exact ⟨changeId, rfl, outcome.2.symm⟩

theorem transitionOutcome_insertAudit {entry : JsObject} {reply : Except ApiError Unit}
    (outcome : transitionOutcome types pid delivery (.insertAudit entry) state =
      (reply, after)) :
    ∃ audit, after = { state with control := { state.control with audit } } := by
  unfold transitionOutcome at outcome
  rcases (controlDatabase types).attempt_cases delivery (.insertAudit entry) state.control with
    ⟨error, failed⟩ | ⟨current, control, executed, told | lost⟩
  · rw [failed] at outcome
    cases outcome
    exact ⟨state.control.audit, rfl⟩
  · cases executed
    rw [told] at outcome
    cases outcome
    exact ⟨_, rfl⟩
  · cases executed
    rw [lost] at outcome
    cases outcome
    exact ⟨_, rfl⟩

end Statements

/-! ## The invariant -/

/-- The audit list of a change only grows. -/
def AuditExtended (earlier later : ChangeRequest) : Prop :=
  earlier.audit <+: later.audit

theorem AuditExtended.refl (change : ChangeRequest) : AuditExtended change change :=
  List.prefix_refl _

theorem AuditExtended.trans {first second third : ChangeRequest}
    (earlier : AuditExtended first second) (later : AuditExtended second third) :
    AuditExtended first third :=
  List.IsPrefix.trans earlier later

section Invariant

variable {Pid : Type} {types : ColumnTypes} {requests : Pid → TransitionRequest}
  {pid : Pid} {delivery : Delivery} {state after : TransitionState Pid}

/-- The invariant of the stored changes and their versions. -/
structure VersionsKept (requests : Pid → TransitionRequest) (state : TransitionState Pid) :
    Prop where
  reparsed : ∀ row ∈ state.control.changes, row.payload.reparsed = row.payload
  linear : Linear AuditExtended state.control.change state.history
  steps : ∀ version ∈ state.history, ∃ entry,
    AppendsStep (requests version.writer).context.operator.userId version entry

/-- A statement of one request leaves what the others rely on. -/
structure TransitionFrame (pid : Pid) (state after : TransitionState Pid) : Prop where
  reads : ∀ other, other ≠ pid → after.reads other = state.reads other
  history : ∀ version ∈ state.history, version ∈ after.history

theorem AtTransitionStage.frame (frame : TransitionFrame pid state after) {other : Pid}
    (different : other ≠ pid) {program : ControlProgram ControlAnswer}
    (standing : AtTransitionStage requests other state program) :
    AtTransitionStage requests other after program := by
  obtain ⟨stage, same, facts⟩ := standing
  refine ⟨stage, same, ?_⟩
  cases stage with
  | reading | failed => trivial
  | writing next =>
      obtain ⟨current, hasRead, others⟩ := facts
      exact ⟨current, (frame.reads other different).trans hasRead, others⟩
  | auditing next | answered next =>
      obtain ⟨version, member, others⟩ := facts
      exact ⟨version, frame.history version member, others⟩

theorem change_upsertRow (control : ControlState) (changeId : String)
    (payload : ChangeRequest) :
    ControlState.change
        { control with
          changes :=
            upsertRow ChangeRow.changeId replaceRow ⟨changeId, payload⟩ control.changes } =
      Function.update control.change changeId (some payload) := by
  funext wanted
  unfold ControlState.change
  rw [findRow_upsertRow (fun _ _ => rfl), Function.update_apply]
  by_cases same : wanted = changeId
  · rw [if_pos same, if_pos same]
    cases findRow ChangeRow.changeId changeId control.changes with
    | none => rfl
    | some stored => rfl
  · rw [if_neg same, if_neg same]

theorem reparsed_reparsed (change : ChangeRequest) :
    change.reparsed.reparsed = change.reparsed := by
  simp [ChangeRequest.reparsed, Json.reparsed_reparsed, Function.comp_def]

/-- What a decision on a stored version makes of it. -/
theorem appendsStep_of_decided {context : RequestContext} {current next : ChangeRequest}
    {body : Option Json} (fixed : current.reparsed = current)
    (decided : decideTransition context current body = .ok next) (changeId : String)
    (pid : Pid) :
    ∃ entry, AppendsStep context.operator.userId
      (⟨changeId, pid, some current, next.reparsed⟩ : ChangeVersion Pid) entry := by
  obtain ⟨state, allowed, -, -, rfl⟩ := decideTransition_ok decided
  refine
    ⟨⟨state, context.now, context.operator.userId,
        (optionalProperty body "note").map Json.reparsed⟩,
      current, rfl, allowed, ?_, rfl, rfl⟩
  have sameAudit : current.reparsed.audit = current.audit :=
    congrArg ChangeRequest.audit fixed
  unfold ChangeRequest.reparsed at sameAudit ⊢
  simp only [List.map_append, List.map_cons, List.map_nil] at sameAudit ⊢
  rw [sameAudit]

/-- A write of the version that was read keeps the invariant. -/
theorem VersionsKept.write (kept : VersionsKept requests state) {changeId : String}
    {current next : ChangeRequest} (own : state.control.change changeId = some current)
    (fixed : current.reparsed = current)
    (decided :
      decideTransition (requests pid).context current (requests pid).body = .ok next) :
    VersionsKept requests
      { state with
        control := { state.control with
          changes :=
            upsertRow ChangeRow.changeId replaceRow ⟨changeId, next.reparsed⟩
              state.control.changes }
        history := state.history ++
          [⟨changeId, pid, state.control.change changeId, next.reparsed⟩] } := by
  obtain ⟨entry, step⟩ := appendsStep_of_decided fixed decided changeId pid
  rw [own]
  constructor
  · intro row member
    rcases mem_upsertRow member with old | ⟨-, rfl⟩ | ⟨stored, -, rfl⟩
    · exact kept.reparsed row old
    · exact reparsed_reparsed next
    · exact reparsed_reparsed next
  · have extending : ∀ value, state.control.change changeId = some value →
        AuditExtended value next.reparsed := by
      intro value isCurrent
      rw [own] at isCurrent
      cases isCurrent
      obtain ⟨before, isBefore, -, appended, -, -⟩ := step
      cases isBefore
      exact ⟨[entry], appended.symm⟩
    rw [change_upsertRow]
    exact
      kept.linear.write AuditExtended.refl AuditExtended.trans
        ⟨changeId, pid, some current, next.reparsed⟩ extending
  · intro version member
    rcases List.mem_append.mp member with old | new
    · exact kept.steps version old
    · rw [List.mem_singleton.mp new]
      exact ⟨entry, step⟩

/-- A statement leads a request to its next stage. -/
theorem AtTransitionStage.advance [DecidableEq Pid] {statement : ControlStatement}
    {next : Except ApiError statement.Reply → ControlProgram ControlAnswer}
    {reply : Except ApiError statement.Reply}
    (kept : VersionsKept requests state)
    (standing : AtTransitionStage requests pid state (.perform statement next))
    (ownRead : ∀ change, statement = .upsertChange change →
      ∀ changeId ∈ types.uuid change.id,
        state.control.change changeId = state.reads pid)
    (outcome : transitionOutcome types pid delivery statement state = (reply, after)) :
    VersionsKept requests after ∧ AtTransitionStage requests pid after (next reply) ∧
      TransitionFrame pid state after := by
  have sameFrame : TransitionFrame pid state state :=
    ⟨fun _ _ => rfl, fun _ member => member⟩
  obtain ⟨stage, same, facts⟩ := standing
  cases stage with
  | answered change => cases same
  | failed error => cases same
  | reading =>
      cases same
      rcases transitionOutcome_selectChange outcome with
        ⟨rfl, error, rfl⟩ | ⟨changeId, rfl, rfl⟩
      · exact ⟨kept, ⟨.failed error, rfl, trivial⟩, sameFrame⟩
      · refine ⟨⟨kept.reparsed, kept.linear, kept.steps⟩, ?_, ?_⟩
        · rcases afterRead_stage (requests pid) (state.control.change changeId) with
            ⟨current, decision, found, decided, program⟩ | ⟨error, program⟩
          · refine ⟨.writing decision, program, current, ?_, ?_, decided⟩
            · simp [found]
            · obtain ⟨row, isRow, rfl⟩ := Option.map_eq_some_iff.mp found
              exact kept.reparsed row (mem_of_findRow isRow)
          · exact ⟨.failed error, program, trivial⟩
        · refine ⟨?_, fun _ member => member⟩
          intro other different
          simp [different]
  | writing change =>
      cases same
      obtain ⟨current, hasRead, fixed, decided⟩ := facts
      rcases transitionOutcome_upsertChange outcome with
        ⟨rfl, error, rfl⟩ | ⟨changeId, isUuid, rfl⟩
      · exact ⟨kept, ⟨.failed error, rfl, trivial⟩, sameFrame⟩
      · have own : state.control.change changeId = some current := by
          rw [ownRead change rfl changeId isUuid, hasRead]
        refine ⟨kept.write own fixed decided, ?_, fun _ _ => rfl, ?_⟩
        · cases reply with
          | ok written =>
              exact
                ⟨.auditing change, rfl, _,
                  List.mem_append_right _ (List.mem_singleton_self _), rfl, rfl⟩
          | error error => exact ⟨.failed error, rfl, trivial⟩
        · exact fun _ member => List.mem_append_left _ member
  | auditing change =>
      cases same
      obtain ⟨audit, rfl⟩ := transitionOutcome_insertAudit outcome
      refine ⟨⟨kept.reparsed, kept.linear, kept.steps⟩, ?_, fun _ _ => rfl,
        fun _ member => member⟩
      cases reply with
      | ok written => exact ⟨.answered change, rfl, facts⟩
      | error error => exact ⟨.failed error, rfl, trivial⟩

/-- What the invariant says of a request that has been answered. -/
theorem transitionKept_of_versionsKept {world : TransitionWorld Pid}
    (consistent : world.Consistent (VersionsKept requests) (AtTransitionStage requests))
    {answer : ControlAnswer} (answered : world.returned pid = some answer) :
    TransitionKept (requests pid) pid world.shared answer := by
  obtain ⟨stage, same, facts⟩ :=
    consistent.points pid _ (World.returned_eq_some.mp answered)
  cases stage with
  | reading | writing | auditing | failed => cases same
  | answered next =>
      cases same
      obtain ⟨version, member, rfl, value⟩ := facts
      obtain ⟨earlier, later, split⟩ := List.append_of_mem member
      obtain ⟨entry, step⟩ := consistent.shared.steps version member
      have holdsEntry : entry ∈ version.value.audit := by
        obtain ⟨before, -, -, appended, -, -⟩ := step
        rw [appended]
        exact List.mem_append_right _ (List.mem_singleton_self entry)
      refine ⟨earlier, version, later, next, entry, split, rfl, rfl, value, step, ?_, ?_⟩
      · have linear := consistent.shared.linear
        rw [split] at linear
        intro successor isLater sameKey
        exact (linear.extended_later successor isLater sameKey).subset holdsEntry
      · obtain ⟨current, isCurrent, extended⟩ :=
          consistent.shared.linear.reached version member
        exact ⟨current, isCurrent, extended.subset holdsEntry⟩

theorem transitionStart_consistent (control : ControlState)
    (requests : Pid → TransitionRequest) :
    (transitionStart control requests).Consistent (VersionsKept requests)
      (AtTransitionStage requests) where
  shared :=
    { reparsed := by
        intro row member
        obtain ⟨stored, -, rfl⟩ := List.mem_map.mp member
        exact reparsed_reparsed stored.payload
      linear := linear_nil _ _
      steps := fun version member => by cases member }
  points := by
    intro pid program starting
    cases starting
    rcases postTransition_stage (requests pid) with reading | ⟨error, failed⟩
    · exact ⟨.reading, reading, trivial⟩
    · exact ⟨.failed error, failed, trivial⟩

theorem transitionWorld_step [DecidableEq Pid] (world : TransitionWorld Pid)
    (event : Event Pid Delivery)
    (consistent : world.Consistent (VersionsKept requests) (AtTransitionStage requests))
    (own : ReplacesOwnRead types world event) :
    (world.step (transitionServer types) event).Consistent (VersionsKept requests)
      (AtTransitionStage requests) := by
  refine World.Consistent.step ?_ ?_ consistent own
  · intro world pid delivery statement next reply shared consistent current own outcome
    have ownRead : ∀ change, statement = .upsertChange change →
        ∀ changeId ∈ types.uuid change.id,
          world.shared.control.change changeId = world.shared.reads pid := by
      intro change isWrite
      subst isWrite
      exact own (pid, change) (by simp [nextWrite, current])
    obtain ⟨kept, standing, frame⟩ :=
      AtTransitionStage.advance consistent.shared (consistent.points pid _ current) ownRead
        (Option.some.inj outcome)
    exact ⟨kept, standing, fun other program different => AtTransitionStage.frame frame different⟩
  · intro pid state kept
    exact ⟨kept, fun other program standing => standing⟩

/-- In every schedule in which each request that writes a change replaces the
version it has read, no answered transition loses its audit entry. -/
theorem transitionsKept_of_ownReads [DecidableEq Pid] (types : ColumnTypes)
    (control : ControlState) (requests : Pid → TransitionRequest)
    (schedule : List (Event Pid Delivery))
    (own : EveryStep (World.step (transitionServer types)) (ReplacesOwnRead types)
      (transitionStart control requests) schedule) :
    let world := run (World.step (transitionServer types)) (transitionStart control requests)
      schedule
    ∀ pid answer, world.returned pid = some answer →
      TransitionKept (requests pid) pid world.shared answer := by
  intro world pid answer answered
  have consistent :
      world.Consistent (VersionsKept requests) (AtTransitionStage requests) :=
    run_invariant transitionWorld_step (transitionStart_consistent control requests) own
  exact transitionKept_of_versionsKept consistent answered

end Invariant

/-- A production change that waits for approval. -/
private def waitingChange : ChangeRequest :=
  let entered := fun state => ⟨state, "2026-01-01T00:00:00.000Z", "requestor", none⟩
  { id := "f2b7b0a4-6a0e-4d0b-9a55-1f4f6e0c3d21"
    environment := "production"
    actorId := "requestor"
    operation := some (.str "change-provider")
    capability := some (.str "email")
    desired := none
    state := .waitingApproval
    approvedBy := none
    createdAt := "2026-01-01T00:00:00.000Z"
    updatedAt := "2026-01-01T00:00:00.000Z"
    audit := [entered .draft, entered .validating, entered .impactAnalysis,
      entered .waitingApproval] }

private def waitingStore : ControlState :=
  { emptyControlState with changes := [⟨waitingChange.id, waitingChange⟩] }

/-- One operator rejects the change, another approves it. -/
private def rejectOrApprove (approves : Bool) : TransitionRequest :=
  { context :=
      { operator := Operator.sre (if approves then "approver" else "reviewer") ["platform:write"]
        now := "2026-01-02T00:00:00.000Z"
        randomId := "" }
    id := waitingChange.id
    body := some (.obj [("next", .str (if approves then "APPROVED" else "FAILED"))]) }

private def takes (request : Bool) : Event Bool Delivery :=
  .statement request .answered

/-- The approval starts after the rejection is stored, and is refused. -/
theorem rejectionKept :
    let world := run (World.step (transitionServer ColumnTypes.verbatim))
      (transitionStart waitingStore rejectOrApprove)
      [takes false, takes false, takes false, takes true]
    ∀ pid answer, world.returned pid = some answer →
      TransitionKept (rejectOrApprove pid) pid world.shared answer :=
  transitionsKept_of_ownReads ColumnTypes.verbatim waitingStore rejectOrApprove _ (by decide)

/-- When both have read the change first, the approval overwrites the
rejection, and the change that was failed is approved. -/
theorem rejectionLost :
    ¬ ∀ (types : ColumnTypes) (control : ControlState) (requests : Bool → TransitionRequest)
        (schedule : List (Event Bool Delivery)),
        let world := run (World.step (transitionServer types))
          (transitionStart control requests) schedule
        ∀ pid answer, world.returned pid = some answer →
          TransitionKept (requests pid) pid world.shared answer := by
  intro keepsTransitions
  let schedule := [takes false, takes true, takes false, takes false, takes true, takes true]
  let world := run (World.step (transitionServer ColumnTypes.verbatim))
    (transitionStart waitingStore rejectOrApprove) schedule
  have answered : (world.returned false).isSome := by decide
  obtain ⟨answer, returned⟩ := Option.isSome_iff_exists.mp answered
  obtain ⟨earlier, version, later, _, entry, split, _, _, _, ⟨_, _, _, _, _, reviewer⟩, _,
    current, isCurrent, kept⟩ :=
    keepsTransitions ColumnTypes.verbatim waitingStore rejectOrApprove schedule false answer
      returned
  have member : version ∈ world.shared.history := by
    rw [split]
    exact List.mem_append_right _ List.mem_cons_self
  have key : ∀ version ∈ world.shared.history, version.key = waitingChange.id := by
    decide
  have overwritten : ∀ current ∈ world.shared.control.change waitingChange.id,
      ∀ entry ∈ current.audit, entry.actorId ≠ "reviewer" := by
    decide
  rw [key version member] at isCurrent
  exact overwritten current isCurrent entry kept reviewer

end PlatformArchitecture.ControlApi
