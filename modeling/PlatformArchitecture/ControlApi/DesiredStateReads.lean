import PlatformArchitecture.ControlApi.Routes
import PlatformArchitecture.ConfigEngine.ValidState
import PlatformArchitecture.Foundations.Concurrent

/-!
# Reading the desired state with its version

`GET` and `PUT /v1/control/desired-state` answer with the version and the
desired state, which they read one after the other.  Beside the store, the
shared state keeps every pair that was current and what each request read
first.  A response is a pair that was current in the schedules in which the
desired state does not change between the two reads of a request.
-/

namespace PlatformArchitecture.ControlApi

open PlatformArchitecture.Foundations
open PlatformArchitecture.Postgres

/-! ## Requests -/

/-- `GET /v1/control/desired-state`. -/
def getDesiredState : ControlProgram ControlAnswer := do
  let configVersion ← PostgresControlStore.getConfigVersion
  let desiredState ← PostgresControlStore.getDesiredState
  return .desiredState configVersion desiredState

inductive DesiredStateRequest where
  | get
  | put (environment : String) (operator : Operator) (changeHeader : Option String)
      (body : Option Json)

def DesiredStateRequest.program : DesiredStateRequest → ControlProgram ControlAnswer
  | .get => getDesiredState
  | .put environment operator changeHeader body =>
      putDesiredState environment operator changeHeader body

/-- The version and the desired state, with the defaults of a missing row. -/
def ControlState.current (state : ControlState) : Nat × Json :=
  ((state.runtime.map RuntimeState.configVersion).getD 1,
    (state.runtime.map RuntimeState.desiredState).getD (.obj []))

/-- The store, the pairs that were current after each statement, what each
request read first, and the version that each `PUT` created. -/
structure DesiredStateHistory (Pid : Type) where
  control : ControlState
  current : List (Nat × Json)
  firstRead : Pid → Option (Nat × Json)
  created : Pid → Option Nat

abbrev DesiredStateWorld (Pid : Type) :=
  World Pid (DesiredStateHistory Pid) ControlStatement ControlStatement.Reply ApiError
    ControlAnswer

section Model

variable {Pid : Type} [DecidableEq Pid]

/-- What a reply adds to the first reads. -/
def firstReads (pid : Pid) (statement : ControlStatement)
    (reply : Except ApiError statement.Reply) (state : DesiredStateHistory Pid) :
    Pid → Option (Nat × Json) :=
  match statement, reply with
  | .selectRuntime, .ok _ =>
      Function.update state.firstRead pid
        (some ((state.firstRead pid).getD state.control.current))
  | _, _ => state.firstRead

/-- What a reply adds to the created versions. -/
def createdVersions (pid : Pid) (statement : ControlStatement)
    (reply : Except ApiError statement.Reply) (state : DesiredStateHistory Pid) :
    Pid → Option Nat :=
  match statement, reply with
  | .upsertDesiredState _, .ok configVersion =>
      Function.update state.created pid (some configVersion)
  | _, _ => state.created

def desiredStateOutcome (types : ColumnTypes) (pid : Pid) (delivery : Delivery)
    (statement : ControlStatement) (state : DesiredStateHistory Pid) :
    Except ApiError statement.Reply × DesiredStateHistory Pid :=
  let (reply, control) := (controlDatabase types).attempt delivery statement state.control
  (reply,
    { control
      current := state.current ++ [control.current]
      firstRead := firstReads pid statement reply state
      created := createdVersions pid statement reply state })

def desiredStateServer (types : ColumnTypes) :
    Server Pid Delivery (DesiredStateHistory Pid) ControlStatement ControlStatement.Reply
      ApiError where
  outcome pid delivery statement state :=
    some (desiredStateOutcome types pid delivery statement state)
  disconnect _ state := state

def desiredStateStart (control : ControlState) (requests : Pid → DesiredStateRequest) :
    DesiredStateWorld Pid :=
  World.start
    { control
      current := [control.current]
      firstRead := fun _ => none
      created := fun _ => none }
    fun pid => (requests pid).program

/-- The request that reads the store next. -/
def nextReader (world : DesiredStateWorld Pid) : Event Pid Delivery → Option Pid
  | .statement pid _ =>
      match world.programs pid with
      | some (.perform .selectRuntime _) => some pid
      | _ => none
  | _ => none

/-- A request that has read the store finds the desired state unchanged when it
reads again. -/
def ReadsOneState (world : DesiredStateWorld Pid) (event : Event Pid Delivery) : Prop :=
  ∀ pid ∈ nextReader world event, ∀ read ∈ world.shared.firstRead pid,
    world.shared.control.current.2 = read.2

instance (world : DesiredStateWorld Pid) (event : Event Pid Delivery) :
    Decidable (ReadsOneState world event) :=
  inferInstanceAs (Decidable (∀ pid ∈ nextReader world event, _))

end Model

/-- Every response is a pair that was current, and the response of a `PUT` is
not older than the version it created. -/
def Untorn {Pid : Type} (world : DesiredStateWorld Pid) : Prop :=
  ∀ pid configVersion desiredState,
    world.returned pid = some (.desiredState configVersion desiredState) →
      (configVersion, desiredState) ∈ world.shared.current ∧
        ∀ created ∈ world.shared.created pid, created ≤ configVersion

/-! ## The points of a request -/

def ControlStatement.LeavesRuntimeUnread : ControlStatement → Prop
  | .selectRuntime => False
  | _ => True

/-- A program that does not read the runtime row before its last two
statements. -/
inductive WritesThenReads : ControlProgram ControlAnswer → Prop
  | reads : WritesThenReads getDesiredState
  | fails (error : ApiError) : WritesThenReads (.fail error)
  | writes (statement : ControlStatement)
      (next : Except ApiError statement.Reply → ControlProgram ControlAnswer)
      (isWrite : statement.LeavesRuntimeUnread)
      (rest : ∀ reply, WritesThenReads (next reply)) :
      WritesThenReads (.perform statement next)

theorem WritesThenReads.bind {Result : Type} {program : ControlProgram Result}
    {rest : Result → ControlProgram ControlAnswer}
    (issues : program.Issues ControlStatement.LeavesRuntimeUnread)
    (after : ∀ result, WritesThenReads (rest result)) :
    WritesThenReads (program >>= rest) := by
  induction program with
  | done result => exact after result
  | fail error => exact .fails error
  | perform statement next inductionHypothesis =>
      exact .writes statement _ issues.1 fun reply =>
        inductionHypothesis reply (issues.2 reply)

theorem applyDesiredState_writesThenReads (changeId : Option String) (operator : Operator)
    (body : Option Json) :
    WritesThenReads (applyDesiredState changeId operator body) := by
  have setsState : (PostgresControlStore.setDesiredState (body.getD .null)
      operator.userId).Issues ControlStatement.LeavesRuntimeUnread := by
    unfold PostgresControlStore.setDesiredState
    refine Program.issues_bind ?_ (Program.issues_call ?_)
    · intro configVersion
      refine Program.issues_call ?_
      exact True.intro
    · exact True.intro
  have records : (recordApplied changeId operator).Issues
      ControlStatement.LeavesRuntimeUnread := by
    cases changeId with
    | none => trivial
    | some changeId =>
        refine Program.issues_call ?_
        exact True.intro
  exact WritesThenReads.bind setsState fun _ =>
    WritesThenReads.bind records fun _ => .reads

theorem DesiredStateRequest.program_writesThenReads (request : DesiredStateRequest) :
    WritesThenReads request.program := by
  cases request with
  | get => exact .reads
  | put environment operator changeHeader body =>
      refine WritesThenReads.bind (Program.issues_check _) fun _ => ?_
      refine WritesThenReads.bind (Program.issues_check _) fun _ => ?_
      by_cases production : environment = "production"
      · rw [if_pos production]
        refine WritesThenReads.bind ?_ fun _ => applyDesiredState_writesThenReads _ operator body
        refine Program.issues_bind (fun _ => Program.issues_check _) ?_
        cases changeHeader.filter (· ≠ "") with
        | none => trivial
        | some changeId =>
            refine Program.issues_call ?_
            exact True.intro
      · rw [if_neg production]
        exact applyDesiredState_writesThenReads none operator body

/-- The second read of a request. -/
def readState (configVersion : Nat) : ControlProgram ControlAnswer := do
  let desiredState ← PostgresControlStore.getDesiredState
  return .desiredState configVersion desiredState

/-- A request at a point of its program. -/
inductive ReadPoint {Pid : Type} (pid : Pid) (state : DesiredStateHistory Pid) :
    ControlProgram ControlAnswer → Prop
  | before {program : ControlProgram ControlAnswer} (ends : WritesThenReads program)
      (unread : state.firstRead pid = none) : ReadPoint pid state program
  | between {read : Nat × Json} (first : state.firstRead pid = some read)
      (wasCurrent : read ∈ state.current)
      (notOlder : ∀ created ∈ state.created pid, created ≤ read.1) :
      ReadPoint pid state (readState read.1)
  | answered {read : Nat × Json} (wasCurrent : read ∈ state.current)
      (notOlder : ∀ created ∈ state.created pid, created ≤ read.1) :
      ReadPoint pid state (.done (.desiredState read.1 read.2))
  | failed (error : ApiError) : ReadPoint pid state (.fail error)

/-- The current pair is in the history, and no created version is newer. -/
structure HistorySound {Pid : Type} (state : DesiredStateHistory Pid) : Prop where
  current : state.control.current ∈ state.current
  created : ∀ pid, ∀ created ∈ state.created pid, created ≤ state.control.current.1

/-! ## One statement -/

section Statements

variable {Pid : Type} [DecidableEq Pid] {types : ColumnTypes} {pid : Pid}
  {delivery : Delivery} {state : DesiredStateHistory Pid}

theorem executeControl_version {statement : ControlStatement} {before after : ControlState}
    {reply : statement.Reply}
    (executed : executeControl types statement before = .ok (reply, after)) :
    before.current.1 ≤ after.current.1 := by
  cases statement with
  | selectRuntime | selectPage | insertAudit =>
      cases executed
      exact Nat.le_refl _
  | selectChange id =>
      obtain ⟨changeId, -, rfl, -⟩ := executeControl_selectChange executed
      exact Nat.le_refl _
  | upsertChange change =>
      obtain ⟨changeId, -, rfl⟩ := executeControl_upsertChange executed
      exact Nat.le_refl _
  | upsertPage page data =>
      dsimp only [executeControl] at executed
      split at executed
      · cases executed
      · cases executed
        exact Nat.le_refl _
  | upsertDesiredState value =>
      dsimp only [executeControl] at executed
      split at executed
      · cases executed
      · cases executed
        cases runtime : before.runtime with
        | none => simp [ControlState.current, runtime]
        | some row => simp [ControlState.current, runtime]

theorem executeControl_upsertDesiredState {value : Json} {before after : ControlState}
    {configVersion : Nat}
    (executed : executeControl types (.upsertDesiredState value) before =
      .ok (configVersion, after)) :
    after.current.1 = configVersion := by
  dsimp only [executeControl] at executed
  split at executed
  · cases executed
  · cases executed
    rfl

/-- What a statement does to the version, whatever becomes of its answer. -/
theorem attempt_version (statement : ControlStatement) (control : ControlState) :
    control.current.1 ≤
      ((controlDatabase types).attempt delivery statement control).2.current.1 := by
  rcases (controlDatabase types).attempt_cases delivery statement control with
    ⟨error, failed⟩ | ⟨reply, after, executed, told | lost⟩
  · rw [failed]
  · rw [told]
    exact executeControl_version executed
  · rw [lost]
    exact executeControl_version executed

/-- What a statement of a request does to the other requests and the history. -/
structure HistoryGrows (pid : Pid) (before after : DesiredStateHistory Pid) : Prop where
  current : ∀ pair ∈ before.current, pair ∈ after.current
  firstRead : ∀ other, other ≠ pid → after.firstRead other = before.firstRead other
  created : ∀ other, other ≠ pid → after.created other = before.created other

theorem firstReads_other {statement : ControlStatement}
    (reply : Except ApiError statement.Reply) {other : Pid} (different : other ≠ pid) :
    firstReads pid statement reply state other = state.firstRead other := by
  cases statement with
  | selectRuntime =>
      cases reply with
      | error error => rfl
      | ok runtime => exact Function.update_of_ne different _ state.firstRead
  | upsertDesiredState | selectPage | upsertPage | selectChange | upsertChange | insertAudit =>
      rfl

theorem createdVersions_other {statement : ControlStatement}
    (reply : Except ApiError statement.Reply) {other : Pid} (different : other ≠ pid) :
    createdVersions pid statement reply state other = state.created other := by
  cases statement with
  | upsertDesiredState value =>
      cases reply with
      | error error => rfl
      | ok configVersion => exact Function.update_of_ne different _ state.created
  | selectRuntime | selectPage | upsertPage | selectChange | upsertChange | insertAudit =>
      rfl

theorem desiredStateOutcome_grows (statement : ControlStatement) :
    HistoryGrows pid state (desiredStateOutcome types pid delivery statement state).2 where
  current _ member := List.mem_append_left _ member
  firstRead _ different := firstReads_other _ different
  created _ different := createdVersions_other _ different

/-- A created version was known before, or it is the stored one. -/
theorem createdVersions_attempt (statement : ControlStatement) {other : Pid} {created : Nat}
    (isCreated : created ∈ createdVersions pid statement
      ((controlDatabase types).attempt delivery statement state.control).1 state other) :
    created ∈ state.created other ∨
      created = ((controlDatabase types).attempt delivery statement
        state.control).2.current.1 := by
  cases statement with
  | selectRuntime | selectPage | upsertPage | selectChange | upsertChange | insertAudit =>
      exact Or.inl isCreated
  | upsertDesiredState value =>
      rcases (controlDatabase types).attempt_cases delivery (.upsertDesiredState value)
        state.control with ⟨error, failed⟩ | ⟨configVersion, after, executed, told | lost⟩
      · rw [failed] at isCreated
        exact Or.inl isCreated
      · rw [told] at isCreated ⊢
        by_cases self : other = pid
        · subst other
          unfold createdVersions at isCreated
          simp only [Function.update_self, Option.mem_def, Option.some.injEq] at isCreated
          right
          rw [executeControl_upsertDesiredState executed]
          exact isCreated.symm
        · rw [createdVersions_other _ self] at isCreated
          exact Or.inl isCreated
      · rw [lost] at isCreated
        exact Or.inl isCreated

theorem desiredStateOutcome_sound (statement : ControlStatement)
    (sound : HistorySound state) :
    HistorySound (desiredStateOutcome types pid delivery statement state).2 where
  current := List.mem_append_right _ (List.mem_singleton_self _)
  created := by
    intro other created isCreated
    rcases createdVersions_attempt statement isCreated with before | stored
    · exact (sound.created other created before).trans (attempt_version statement state.control)
    · exact stored.le

/-- What a read of the runtime row answers. -/
theorem desiredStateOutcome_selectRuntime {reply : Except ApiError (Option RuntimeState)}
    {after : DesiredStateHistory Pid}
    (outcome : desiredStateOutcome types pid delivery .selectRuntime state = (reply, after)) :
    (∃ error, reply = .error error ∧ after.firstRead pid = state.firstRead pid) ∨
      (reply = .ok state.control.runtime ∧
        after.firstRead pid =
          some ((state.firstRead pid).getD state.control.current)) := by
  unfold desiredStateOutcome at outcome
  rcases (controlDatabase types).attempt_cases delivery .selectRuntime state.control with
    ⟨error, failed⟩ | ⟨runtime, control, executed, told | lost⟩
  · rw [failed] at outcome
    cases outcome
    exact Or.inl ⟨error, rfl, rfl⟩
  · cases executed
    rw [told] at outcome
    cases outcome
    exact Or.inr ⟨rfl, Function.update_self pid _ state.firstRead⟩
  · rw [lost] at outcome
    cases outcome
    exact Or.inl ⟨_, rfl, rfl⟩

/-- No other statement is a read. -/
theorem firstReads_unread {statement : ControlStatement}
    (unread : statement.LeavesRuntimeUnread) (reply : Except ApiError statement.Reply) :
    firstReads pid statement reply state = state.firstRead := by
  cases statement with
  | selectRuntime => cases unread
  | upsertDesiredState | selectPage | upsertPage | selectChange | upsertChange | insertAudit =>
      rfl

end Statements

/-! ## One event -/

section Steps

variable {Pid : Type} {types : ColumnTypes} {pid : Pid} {delivery : Delivery}
  {state after : DesiredStateHistory Pid}

/-- The point of a request only relies on its own reads and on the history. -/
theorem ReadPoint.frame {other : Pid} {program : ControlProgram ControlAnswer}
    (grows : HistoryGrows pid state after) (different : other ≠ pid)
    (point : ReadPoint other state program) : ReadPoint other after program := by
  have sameRead := grows.firstRead other different
  have sameCreated := grows.created other different
  cases point with
  | before ends unread => exact .before ends (sameRead.trans unread)
  | between first wasCurrent notOlder =>
      exact .between (sameRead.trans first) (grows.current _ wasCurrent) (sameCreated ▸ notOlder)
  | answered wasCurrent notOlder =>
      exact .answered (grows.current _ wasCurrent) (sameCreated ▸ notOlder)
  | failed error => exact .failed error

variable [DecidableEq Pid]

/-- A read forgets nothing and creates nothing. -/
theorem selectRuntime_grows {reply : Except ApiError (Option RuntimeState)}
    (outcome : desiredStateOutcome types pid delivery .selectRuntime state = (reply, after)) :
    HistoryGrows pid state after ∧ after.created = state.created := by
  have grows := @desiredStateOutcome_grows Pid _ types pid delivery state .selectRuntime
  have reached := congrArg (fun pair => pair.2.created) outcome
  rw [outcome] at grows
  exact ⟨grows, reached.symm⟩

theorem getDesiredState_step
    {next : Except ApiError (Option RuntimeState) → ControlProgram ControlAnswer}
    {reply : Except ApiError (Option RuntimeState)} (sound : HistorySound state)
    (unread : state.firstRead pid = none)
    (current : getDesiredState = .perform .selectRuntime next)
    (outcome : desiredStateOutcome types pid delivery .selectRuntime state = (reply, after)) :
    ReadPoint pid after (next reply) := by
  cases current
  obtain ⟨grows, sameCreated⟩ := selectRuntime_grows outcome
  rcases desiredStateOutcome_selectRuntime outcome with ⟨error, rfl, -⟩ | ⟨rfl, first⟩
  · exact .failed error
  · rw [unread, Option.getD_none] at first
    refine .between first (grows.current _ sound.current) ?_
    rw [sameCreated]
    exact sound.created pid

theorem readState_step {read : Nat × Json}
    {next : Except ApiError (Option RuntimeState) → ControlProgram ControlAnswer}
    {reply : Except ApiError (Option RuntimeState)}
    (unchanged : state.control.current.2 = read.2)
    (wasCurrent : read ∈ state.current)
    (notOlder : ∀ created ∈ state.created pid, created ≤ read.1)
    (current : readState read.1 = .perform .selectRuntime next)
    (outcome : desiredStateOutcome types pid delivery .selectRuntime state = (reply, after)) :
    ReadPoint pid after (next reply) := by
  cases current
  obtain ⟨grows, sameCreated⟩ := selectRuntime_grows outcome
  rcases desiredStateOutcome_selectRuntime outcome with ⟨error, rfl, -⟩ | ⟨rfl, -⟩
  · exact .failed error
  · have answered : ReadPoint pid after (.done (.desiredState read.1 read.2)) := by
      refine .answered (grows.current _ wasCurrent) ?_
      rw [sameCreated]
      exact notOlder
    rw [← unchanged] at answered
    exact answered

/-- A statement leads its request to the next point. -/
theorem ReadPoint.own {world : DesiredStateWorld Pid} {statement : ControlStatement}
    {next : Except ApiError statement.Reply → ControlProgram ControlAnswer}
    {reply : Except ApiError statement.Reply} {program : ControlProgram ControlAnswer}
    (sound : HistorySound world.shared) (point : ReadPoint pid world.shared program)
    (running : world.programs pid = some program) (current : program = .perform statement next)
    (meets : ReadsOneState world (.statement pid delivery))
    (outcome : desiredStateOutcome types pid delivery statement world.shared = (reply, after)) :
    ReadPoint pid after (next reply) := by
  cases point with
  | before ends unread =>
      cases ends with
      | fails error => cases current
      | writes other following isWrite rest =>
          cases current
          refine .before (rest reply) ?_
          have same := @firstReads_unread Pid _ pid world.shared statement isWrite
            ((controlDatabase types).attempt delivery statement world.shared.control).1
          have reached := congrArg (fun pair => pair.2.firstRead) outcome
          exact (congrFun (reached.symm.trans same) pid).trans unread
      | reads =>
          have isRead : statement = .selectRuntime := by
            cases current
            rfl
          subst isRead
          exact getDesiredState_step sound unread current outcome
  | @between read first wasCurrent notOlder =>
      have isRead : statement = .selectRuntime := by
        cases current
        rfl
      subst isRead
      have readsNext : nextReader world (.statement pid delivery) = some pid := by
        simp only [nextReader, running, current]
      exact readState_step (meets pid readsNext read first) wasCurrent notOlder current outcome
  | answered wasCurrent notOlder => cases current
  | failed error => cases current

theorem step_consistent {world : DesiredStateWorld Pid} {event : Event Pid Delivery}
    (consistent : world.Consistent HistorySound ReadPoint)
    (meets : ReadsOneState world event) :
    (world.step (desiredStateServer types) event).Consistent HistorySound ReadPoint := by
  refine World.Consistent.step ?_ ?_ consistent meets
  · intro world pid delivery statement next reply after consistent running meets answered
    have outcome : desiredStateOutcome types pid delivery statement world.shared =
        (reply, after) := Option.some.inj answered
    have sound := @desiredStateOutcome_sound Pid _ types pid delivery world.shared statement
      consistent.shared
    have grows := @desiredStateOutcome_grows Pid _ types pid delivery world.shared statement
    rw [outcome] at sound grows
    refine ⟨sound, ?_, ?_⟩
    · exact (consistent.points pid _ running).own consistent.shared running rfl meets outcome
    · intro other program different point
      exact point.frame grows different
  · intro pid state sound
    exact ⟨sound, fun _ _ point => point⟩

end Steps

/-! ## Runs -/

section Runs

variable {Pid : Type}

theorem untorn_of_consistent {world : DesiredStateWorld Pid}
    (consistent : world.Consistent HistorySound ReadPoint) : Untorn world := by
  intro pid configVersion desiredState returned
  have point := consistent.points pid _ (World.returned_eq_some.mp returned)
  generalize reached : (Program.done (.desiredState configVersion desiredState) :
    ControlProgram ControlAnswer) = program at point
  cases point with
  | before ends unread =>
      cases ends with
      | reads | fails | writes => cases reached
  | between => cases reached
  | answered wasCurrent notOlder =>
      cases reached
      exact ⟨wasCurrent, notOlder⟩
  | failed error => cases reached

variable [DecidableEq Pid]

/-- In every schedule in which the desired state does not change between the
two reads of a request, no response is torn. -/
theorem desiredState_untorn (types : ColumnTypes) (control : ControlState)
    (requests : Pid → DesiredStateRequest) (events : List (Event Pid Delivery))
    (every : EveryStep (World.step (desiredStateServer types)) ReadsOneState
      (desiredStateStart control requests) events) :
    Untorn (run (World.step (desiredStateServer types))
      (desiredStateStart control requests) events) := by
  apply untorn_of_consistent
  refine run_invariant (fun _ _ consistent meets => step_consistent consistent meets) ?_ every
  refine ⟨⟨List.mem_singleton_self _, fun _ _ created => by cases created⟩, ?_⟩
  intro pid program running
  obtain rfl := Option.some.inj running
  exact .before (requests pid).program_writesThenReads rfl

end Runs

/-! ## A read around a write -/

/-- One request reads, the other writes the local desired state. -/
private def readOrWrite (reads : Bool) : DesiredStateRequest :=
  if reads then .get
  else .put "local" (Operator.sre "operator" ["platform:write"]) none
    (some (ConfigEngine.localState []))

private def issues (reads : Bool) : Event Bool Delivery :=
  .statement reads .answered

/-- The desired state is written before the first read. -/
theorem desiredState_untorn_in_turn :
    Untorn (run (World.step (desiredStateServer ColumnTypes.verbatim))
      (desiredStateStart emptyControlState readOrWrite)
      [issues false, issues false, issues true, issues false, issues true, issues false]) :=
  desiredState_untorn ColumnTypes.verbatim emptyControlState readOrWrite _ (by decide)

/-- The write comes after the version was read: version 1 is answered with the
desired state of version 2. -/
theorem desiredState_torn :
    ¬ Untorn (run (World.step (desiredStateServer ColumnTypes.verbatim))
      (desiredStateStart emptyControlState readOrWrite)
      [issues true, issues false, issues true]) := by
  intro holds
  have answered := holds true 1 (ConfigEngine.localState []) (by rfl)
  revert answered
  decide

end PlatformArchitecture.ControlApi
