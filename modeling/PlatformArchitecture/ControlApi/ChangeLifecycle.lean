import PlatformArchitecture.ControlApi.ChangeProtocol
import PlatformArchitecture.Foundations.Run

/-!
# Runs of the control API

Requests of any operators, handled one at a time, over one store; a statement
of a request may fail, or take effect without being answered.  Every stored
production change stays governed by the approval protocol, and the desired
state is only written under the name of such a change.
-/

namespace PlatformArchitecture.ControlApi

open PlatformArchitecture.Foundations
open PlatformArchitecture.Postgres

/-! ## What a statement writes -/

inductive ControlTable where
  | runtime
  | pages
  | changes
  | audit
  deriving DecidableEq

def ControlStatement.writes : ControlStatement → Option ControlTable
  | .upsertDesiredState _ => some .runtime
  | .upsertPage _ _ => some .pages
  | .upsertChange _ => some .changes
  | .insertAudit _ => some .audit
  | .selectRuntime | .selectPage _ | .selectChange _ => none

section Frame

variable {types : ColumnTypes} {statement : ControlStatement}
  {reply : statement.Reply} {before after : ControlState}

theorem executeControl_changes (other : statement.writes ≠ some .changes)
    (executed : executeControl types statement before = .ok (reply, after)) :
    after.changes = before.changes := by
  cases statement with
  | upsertChange change => exact absurd rfl other
  | selectRuntime | selectPage | insertAudit =>
      cases executed
      rfl
  | upsertDesiredState | upsertPage | selectChange =>
      dsimp only [executeControl] at executed
      split at executed
      · cases executed
      · cases executed
        rfl

theorem executeControl_runtime (other : statement.writes ≠ some .runtime)
    (executed : executeControl types statement before = .ok (reply, after)) :
    after.runtime = before.runtime := by
  cases statement with
  | upsertDesiredState value => exact absurd rfl other
  | selectRuntime | selectPage | insertAudit =>
      cases executed
      rfl
  | upsertChange | upsertPage | selectChange =>
      dsimp only [executeControl] at executed
      split at executed
      · cases executed
      · cases executed
        rfl

end Frame

/-! ## What a handler writes -/

/-- No statement of the program writes one of the tables. -/
abbrev LeavesAlone {Result : Type} (tables : List ControlTable)
    (program : ControlProgram Result) : Prop :=
  program.Issues fun statement => ∀ table ∈ tables, statement.writes ≠ some table

theorem LeavesAlone.keepsChanges {Result : Type} {tables : List ControlTable}
    {program : ControlProgram Result} (leaves : LeavesAlone tables program)
    (member : .changes ∈ tables) (types : ColumnTypes) (state : ControlState) :
    program.Ensures (controlDatabase types)
      (fun _ after => after.changes = state.changes) state :=
  Program.ensures_frame ControlState.changes
    (fun _ other _ _ _ executed => executeControl_changes (other _ member) executed)
    leaves

theorem LeavesAlone.keepsRuntime {Result : Type} {tables : List ControlTable}
    {program : ControlProgram Result} (leaves : LeavesAlone tables program)
    (member : .runtime ∈ tables) (types : ColumnTypes) (state : ControlState) :
    program.Ensures (controlDatabase types)
      (fun _ after => after.runtime = state.runtime) state :=
  Program.ensures_frame ControlState.runtime
    (fun _ other _ _ _ executed => executeControl_runtime (other _ member) executed)
    leaves

theorem leavesAlone_await {tables : List ControlTable} {statement : ControlStatement}
    (other : ∀ table ∈ tables, statement.writes ≠ some table) :
    LeavesAlone tables (awaitControl statement) :=
  Program.issues_call other

theorem leavesAlone_bind {Result Other : Type} {tables : List ControlTable}
    {program : ControlProgram Result} {rest : Result → ControlProgram Other}
    (first : LeavesAlone tables program)
    (second : ∀ result, LeavesAlone tables (rest result)) :
    LeavesAlone tables (program >>= rest) :=
  Program.issues_bind second first

theorem leavesAlone_check {Result : Type} {tables : List ControlTable}
    (verdict : Except ApiError Result) :
    LeavesAlone tables (Program.check verdict) :=
  Program.issues_check verdict

theorem getPage_leavesAlone (tables : List ControlTable) (page : ControlPage) :
    LeavesAlone tables (PostgresControlStore.getPage page) :=
  leavesAlone_bind (leavesAlone_await (by simp [ControlStatement.writes])) fun _ => trivial

theorem recordAudit_leavesAlone {tables : List ControlTable} (other : .audit ∉ tables)
    (entry : JsObject) :
    LeavesAlone tables (PostgresControlStore.recordAudit entry) := by
  apply leavesAlone_await
  intro table member same
  cases same
  exact other member

theorem setPage_leavesAlone (page : ControlPage) (data : Option Json) (actorId : String) :
    LeavesAlone [.changes, .runtime] (PostgresControlStore.setPage page data actorId) :=
  leavesAlone_bind (leavesAlone_await (by simp [ControlStatement.writes]))
    fun _ => recordAudit_leavesAlone (by simp) _

theorem saveChange_leavesAlone (change : ChangeRequest) :
    LeavesAlone [.runtime] (PostgresControlStore.saveChange change) :=
  leavesAlone_bind (leavesAlone_await (by simp [ControlStatement.writes]))
    fun _ => recordAudit_leavesAlone (by simp) _

theorem setDesiredState_leavesAlone (value : Json) (actorId : String) :
    LeavesAlone [.changes] (PostgresControlStore.setDesiredState value actorId) :=
  leavesAlone_bind (leavesAlone_await (by simp [ControlStatement.writes]))
    fun _ => recordAudit_leavesAlone (by simp) _

theorem putPage_leavesAlone (operator : Operator) (page : String) (body : Option Json) :
    LeavesAlone [.changes, .runtime] (putPage operator page body) := by
  unfold putPage
  refine leavesAlone_bind (leavesAlone_check _) fun _ => ?_
  cases ControlPage.ofText? page with
  | none => trivial
  | some page =>
      have stores :
          LeavesAlone [.changes, .runtime] (do
            PostgresControlStore.setPage page body operator.userId
            let data ← PostgresControlStore.getPage page
            return ControlAnswer.page
              (if page = .secrets then redactSecretMaterial "" data else data)) :=
        leavesAlone_bind (setPage_leavesAlone page body operator.userId)
          fun _ => leavesAlone_bind (getPage_leavesAlone _ page) fun _ => trivial
      by_cases secrets : page = .secrets
      · simp only [if_pos secrets] at stores ⊢
        exact leavesAlone_bind (leavesAlone_check _) fun _ => stores
      · simp only [if_neg secrets] at stores ⊢
        exact stores

theorem postEmergency_leavesAlone (operator : Operator) (body : Option Json) :
    LeavesAlone [.changes, .runtime] (postEmergency operator body) := by
  unfold postEmergency
  refine leavesAlone_bind (leavesAlone_check _) fun _ => ?_
  refine leavesAlone_bind (getPage_leavesAlone _ _) fun current => ?_
  refine leavesAlone_bind (leavesAlone_check _) fun _ => ?_
  refine leavesAlone_bind (setPage_leavesAlone _ _ _) fun _ => ?_
  refine leavesAlone_bind (recordAudit_leavesAlone (by simp) _) fun _ => ?_
  exact leavesAlone_bind (getPage_leavesAlone _ _) fun _ => trivial

theorem postChange_leavesAlone (environment : String) (context : RequestContext)
    (body : Option Json) :
    LeavesAlone [.runtime] (postChange environment context body) := by
  unfold postChange
  refine leavesAlone_bind (leavesAlone_check _) fun _ => ?_
  refine leavesAlone_bind (leavesAlone_check _) fun change => ?_
  exact leavesAlone_bind (saveChange_leavesAlone change) fun _ => trivial

theorem postTransition_leavesAlone (context : RequestContext) (id : String)
    (body : Option Json) :
    LeavesAlone [.runtime] (postTransition context id body) := by
  unfold postTransition
  refine leavesAlone_bind (leavesAlone_check _) fun _ => ?_
  refine leavesAlone_bind (leavesAlone_await (by simp [ControlStatement.writes])) ?_
  intro current
  cases current with
  | none => trivial
  | some current =>
      refine leavesAlone_bind (leavesAlone_check _) fun next => ?_
      exact leavesAlone_bind (saveChange_leavesAlone next) fun _ => trivial

theorem applyDesiredState_leavesAlone (changeId : Option String) (operator : Operator)
    (body : Option Json) :
    LeavesAlone [.changes] (applyDesiredState changeId operator body) := by
  unfold applyDesiredState
  refine leavesAlone_bind (setDesiredState_leavesAlone _ _) fun _ => ?_
  refine leavesAlone_bind ?_ fun _ => ?_
  · cases changeId with
    | none => trivial
    | some changeId => exact recordAudit_leavesAlone (by simp) _
  · refine leavesAlone_bind ?_ fun _ => leavesAlone_bind ?_ fun _ => trivial
    · exact leavesAlone_bind (leavesAlone_await (by simp [ControlStatement.writes]))
        fun _ => trivial
    · exact leavesAlone_bind (leavesAlone_await (by simp [ControlStatement.writes]))
        fun _ => trivial

theorem requireApprovedChange_leavesAlone (tables : List ControlTable)
    (changeId : Option String) :
    LeavesAlone tables (requireApprovedChange changeId) := by
  refine leavesAlone_bind ?_ fun _ => leavesAlone_check _
  cases changeId with
  | none => trivial
  | some changeId => exact leavesAlone_await (by simp [ControlStatement.writes])

theorem putDesiredState_leavesAlone (environment : String) (operator : Operator)
    (changeHeader : Option String) (body : Option Json) :
    LeavesAlone [.changes] (putDesiredState environment operator changeHeader body) := by
  unfold putDesiredState
  refine leavesAlone_bind (leavesAlone_check _) fun _ => ?_
  refine leavesAlone_bind (leavesAlone_check _) fun _ => ?_
  by_cases production : environment = "production"
  · rw [if_pos production]
    exact leavesAlone_bind (requireApprovedChange_leavesAlone _ _)
      fun _ => applyDesiredState_leavesAlone _ operator body
  · rw [if_neg production]
    exact applyDesiredState_leavesAlone none operator body

/-! ## The handlers that write changes -/

/-- Every stored change is governed by the approval protocol. -/
def ChangesGoverned (state : ControlState) : Prop :=
  ∀ row ∈ state.changes, row.payload.Governed

theorem LeavesAlone.keepsGoverned {Result : Type} {tables : List ControlTable}
    {program : ControlProgram Result} (leaves : LeavesAlone tables program)
    (member : .changes ∈ tables) (types : ColumnTypes) {state : ControlState}
    (stored : ChangesGoverned state) :
    program.Ensures (controlDatabase types) (fun _ after => ChangesGoverned after) state := by
  apply Program.Ensures.mono _ (leaves.keepsChanges member types state)
  intro _ after same row inside
  rw [same] at inside
  exact stored row inside

theorem saveChange_governed {change : ChangeRequest} (governed : change.Governed)
    (types : ColumnTypes) {state : ControlState} (stored : ChangesGoverned state) :
    (PostgresControlStore.saveChange change).Ensures (controlDatabase types)
      (fun _ after => ChangesGoverned after) state := by
  apply Program.ensures_bind
  apply Program.ensures_call
  · exact fun _ => stored
  · intro reply after executed
    have holds : ChangesGoverned after := by
      obtain ⟨changeId, -, rfl⟩ := executeControl_upsertChange executed
      intro row member
      rcases mem_upsertRow member with old | ⟨-, rfl⟩ | ⟨_, -, rfl⟩
      · exact stored row old
      · exact governed.reparsed
      · exact governed.reparsed
    have audited : LeavesAlone [.changes] (PostgresControlStore.recordAudit
        [("type", .str "change.saved"), ("changeId", .str change.id),
          ("actorId", .str change.actorId), ("state", .str change.state.text)]) :=
      recordAudit_leavesAlone (by simp) _
    exact ⟨audited.keepsGoverned (by simp) types holds, holds⟩

theorem postChange_governed (context : RequestContext) (body : Option Json)
    (types : ColumnTypes) {state : ControlState} (stored : ChangesGoverned state) :
    (postChange "production" context body).Ensures (controlDatabase types)
      (fun _ after => ChangesGoverned after) state := by
  refine Program.ensures_check_bind (fun _ _ => stored) fun _ _ => ?_
  refine Program.ensures_check_bind (fun _ _ => stored) fun change requested => ?_
  obtain ⟨input, production, -, rfl⟩ := requestedChange_ok requested
  have governed := governed_create context.randomId context.now production
  exact Program.ensures_bind_done (saveChange_governed governed types stored)

theorem postTransition_governed (context : RequestContext) (id : String)
    (body : Option Json) (types : ColumnTypes) {state : ControlState}
    (stored : ChangesGoverned state) :
    (postTransition context id body).Ensures (controlDatabase types)
      (fun _ after => ChangesGoverned after) state := by
  refine Program.ensures_check_bind (fun _ _ => stored) fun _ _ => ?_
  apply Program.ensures_bind
  apply Program.ensures_call_read
  · intro reply after executed
    exact (executeControl_selectChange executed).choose_spec.2.1
  · exact fun _ => stored
  · intro reply executed
    obtain ⟨changeId, -, -, rfl⟩ := executeControl_selectChange executed
    cases found : findRow ChangeRow.changeId changeId state.changes with
    | none => exact stored
    | some row =>
        have current : row.payload.Governed := stored row (mem_of_findRow found)
        refine Program.ensures_check_bind (fun _ _ => stored) fun next decided => ?_
        have governed := governed_decideTransition current decided
        exact Program.ensures_bind_done (saveChange_governed governed types stored)

/-! ## Production writes of the desired state -/

/-- The header of a production write names a stored change that allows it. -/
def NamesApprovedChange (types : ColumnTypes) (state : ControlState)
    (changeHeader : Option String) : Prop :=
  ∃ id changeId change,
    changeHeader = some id ∧ types.uuid id = some changeId ∧
      findRow ChangeRow.changeId changeId state.changes = some ⟨changeId, change⟩ ∧
      change.allowsMutation ∧ change.FollowsProtocol

/-- The check before a production write passes only for such a header. -/
theorem requireApprovedChange_names (changeHeader : Option String) (types : ColumnTypes)
    {state : ControlState} (stored : ChangesGoverned state) :
    (requireApprovedChange (changeHeader.filter (· ≠ ""))).Ensures (controlDatabase types)
      (fun result after => after = state ∧
        (result = .ok () → NamesApprovedChange types state changeHeader)) state := by
  cases named : changeHeader.filter (· ≠ "") with
  | none =>
      refine Program.ensures_bind (Program.ensures_done.mpr (Program.ensures_check ?_))
      refine ⟨rfl, fun passed => ?_⟩
      simp at passed
  | some id =>
      apply Program.ensures_bind
      apply Program.ensures_call_read
      · intro reply after executed
        exact (executeControl_selectChange executed).choose_spec.2.1
      · intro error
        refine ⟨rfl, fun passed => ?_⟩
        cases passed
      · intro reply executed
        obtain ⟨changeId, isUuid, -, rfl⟩ := executeControl_selectChange executed
        apply Program.ensures_check
        refine ⟨rfl, fun passed => ?_⟩
        rw [throwIf_eq_ok, not_not] at passed
        obtain ⟨change, isStored, allows⟩ := passed
        obtain ⟨row, found, rfl⟩ := Option.map_eq_some_iff.mp isStored
        have key : row.changeId = changeId := key_of_findRow found
        subst key
        exact ⟨id, row.changeId, row.payload, (Option.filter_eq_some_iff.mp named).1, isUuid,
          found, allows, (stored row (mem_of_findRow found)).followsProtocol⟩

/-- A production write that is applied, or answered with success, names an
approved change. -/
theorem putDesiredState_names (operator : Operator) (changeHeader : Option String)
    (body : Option Json) (types : ColumnTypes) {state : ControlState}
    (stored : ChangesGoverned state) :
    (putDesiredState "production" operator changeHeader body).Ensures
      (controlDatabase types)
      (fun result after =>
        after.runtime ≠ state.runtime ∨ (∃ answer, result = .ok answer) →
          NamesApprovedChange types state changeHeader) state := by
  have refused (error : ApiError) :
      state.runtime ≠ state.runtime ∨
          (∃ answer : ControlAnswer, (Except.error error) = .ok answer) →
        NamesApprovedChange types state changeHeader := by
    intro applied
    rcases applied with differs | ⟨answer, same⟩
    · exact absurd rfl differs
    · cases same
  refine Program.ensures_check_bind (fun error _ => refused error) fun _ _ => ?_
  refine Program.ensures_check_bind (fun error _ => refused error) fun _ _ => ?_
  rw [if_pos rfl]
  apply Program.ensures_bind
  apply Program.Ensures.mono _ (requireApprovedChange_names changeHeader types stored)
  intro result after passed
  obtain ⟨same, names⟩ := passed
  subst same
  cases result with
  | error error => exact refused error
  | ok passed =>
      have leaves := applyDesiredState_leavesAlone (changeHeader.filter (· ≠ "")) operator body
      apply Program.Ensures.mono _ (leaves.keepsChanges (by simp) types after)
      exact fun _ _ _ _ => names rfl

/-! ## Runs -/

/-- A request with what becomes of its statements. -/
structure ServedRequest where
  context : RequestContext
  request : ControlRequest
  deliveries : List Delivery

def respond (types : ColumnTypes) (environment : String) (state : ControlState)
    (served : ServedRequest) : Except ApiError ControlAnswer × ControlState :=
  (handleControl environment served.context served.request).run (controlDatabase types)
    served.deliveries state

def serve (types : ColumnTypes) (environment : String) (state : ControlState)
    (served : ServedRequest) : ControlState :=
  (respond types environment state served).2

/-- A production request writes the desired state only as a `PUT` that names an
approved change. -/
def WritesUnderChange (types : ColumnTypes) (state : ControlState)
    (served : ServedRequest) : Prop :=
  let answered := respond types "production" state served
  match served.request with
  | .putDesiredState changeHeader _ =>
      answered.2.runtime ≠ state.runtime ∨ (∃ answer, answered.1 = .ok answer) →
        NamesApprovedChange types state changeHeader
  | _ => answered.2.runtime = state.runtime

theorem serve_governed (types : ColumnTypes) (state : ControlState) (served : ServedRequest)
    (stored : ChangesGoverned state) :
    ChangesGoverned (serve types "production" state served) := by
  have ensured :
      (handleControl "production" served.context served.request).Ensures
        (controlDatabase types) (fun _ after => ChangesGoverned after) state := by
    cases served.request with
    | putDesiredState changeHeader body =>
        exact (putDesiredState_leavesAlone _ _ _ _).keepsGoverned (by simp) types stored
    | putPage page body =>
        exact (putPage_leavesAlone _ _ _).keepsGoverned (by simp) types stored
    | postChange body => exact postChange_governed _ body types stored
    | postTransition id body => exact postTransition_governed _ id body types stored
    | postEmergency body =>
        exact (postEmergency_leavesAlone _ _).keepsGoverned (by simp) types stored
    | previewWorkflow =>
        exact Program.ensures_check_bind (fun _ _ => stored) fun _ _ => stored
    | read => exact stored
  exact ensured.run served.deliveries

theorem serve_writesUnderChange (types : ColumnTypes) (state : ControlState)
    (served : ServedRequest) (stored : ChangesGoverned state) :
    WritesUnderChange types state served := by
  obtain ⟨context, request, deliveries⟩ := served
  cases request with
  | putDesiredState changeHeader body =>
      exact (putDesiredState_names context.operator changeHeader body types stored).run deliveries
  | putPage page body =>
      exact ((putPage_leavesAlone _ _ _).keepsRuntime (by simp) types state).run deliveries
  | postChange body =>
      exact ((postChange_leavesAlone _ _ _).keepsRuntime (by simp) types state).run deliveries
  | postTransition id body =>
      exact ((postTransition_leavesAlone _ _ _).keepsRuntime (by simp) types state).run
        deliveries
  | postEmergency body =>
      exact ((postEmergency_leavesAlone _ _).keepsRuntime (by simp) types state).run deliveries
  | previewWorkflow =>
      have preview : LeavesAlone [.runtime]
          (handleControl "production" context .previewWorkflow) :=
        leavesAlone_bind (leavesAlone_check _) fun _ => trivial
      exact (preview.keepsRuntime (by simp) types state).run deliveries
  | read => rfl

/-- Whatever is requested of a production control API, by whatever operators
and in whatever order, every stored change follows the approval protocol, and
every applied write of the desired state names a change that does. -/
theorem changesFollowProtocol_of_run (types : ColumnTypes) (requests : List ServedRequest) :
    (∀ row ∈ (run (serve types "production") emptyControlState requests).changes,
        row.payload.FollowsProtocol) ∧
      EveryStep (serve types "production") (WritesUnderChange types) emptyControlState
        requests := by
  have empty : ChangesGoverned emptyControlState := by
    intro row member
    cases member
  constructor
  · have governed :=
      run_invariant_of_step (serve_governed types) requests empty
    intro row member
    exact (governed row member).followsProtocol
  · have always :
        EveryStep (serve types "production") (fun _ _ => True) emptyControlState requests :=
      everyStep_of_forall (fun _ _ => trivial) _ _
    exact
      everyStep_of_invariant
        (fun state served stored _ => serve_governed types state served stored)
        (fun state served stored _ => serve_writesUnderChange types state served stored)
        empty always

end PlatformArchitecture.ControlApi
