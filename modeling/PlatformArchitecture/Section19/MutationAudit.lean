import PlatformArchitecture.ControlApi.MutationAudit
import PlatformArchitecture.Section19.Effects

/-!
# The audit trail of the control plane service

`createChange`, `transition` and `activateConfig` write with one statement, or
one transaction, and then append an audit event.  Together with the control
store: everything that either of them holds is recorded when every write that
takes effect is answered and every audit insert takes effect.
-/

namespace PlatformArchitecture.Section19

open PlatformArchitecture.ControlApi
open PlatformArchitecture.Foundations
open PlatformArchitecture.Foundations.RecordedStore

/-! ## Mutations -/

inductive PlatformMutation where
  | createChange (context : PlatformContext) (input : JsObject)
  | transition (context : PlatformContext) (id : String) (next : ChangeState)
  | activateConfig (context : PlatformContext) (environment : String)
      (version : Option JsNumber)

/-- The mutation without its answer. -/
def PlatformMutation.program : PlatformMutation → PlatformProgram Unit
  | createChange context input =>
      ControlPlaneService.createChange context input >>= fun _ => .done ()
  | transition context id next =>
      ControlPlaneService.transition context id next >>= fun _ => .done ()
  | activateConfig context environment version =>
      ControlPlaneService.activateConfig context environment version

/-! ## Items and entries -/

/-- A change under its id with its status, and a version that is active in an
environment. -/
inductive PlatformItem where
  | change (changeId status : String)
  | active (environment : String) (version : Int)

def PlatformState.holds (state : PlatformState) : PlatformItem → Prop
  | .change changeId status =>
      ∃ row ∈ state.changes, row.changeId = changeId ∧ row.status = status
  | .active environment version =>
      ∃ config ∈ state.configs,
        config.environment = environment ∧ config.version = version ∧ config.active

def PlatformStatement.writes : PlatformStatement → Bool
  | .upsertChange _ | .activateConfigVersion _ _ => true
  | _ => false

def PlatformStatement.entry : PlatformStatement → Option JsObject
  | .insertAudit event => some event
  | _ => none

def leavesPlatformItem (columns : ChangeColumns) : PlatformStatement → PlatformItem → Prop
  | .upsertChange x, .change changeId status =>
      ∃ row, PlatformChange.ofParameters columns x = some row ∧
        row.changeId = changeId ∧ row.status = status
  | .activateConfigVersion written version, .active environment number =>
      environment = written ∧ version.bind columns.integer = some number
  | _, _ => False

/-- The event names the change that was created, holds the change that was
moved, or names the version that was activated. -/
def accountsForPlatform : PlatformStatement → JsObject → Prop
  | .upsertChange x, event =>
      (event.lookup "action" = some (.str "change.create") ∧
          event.lookup "resource" = x.lookup "changeId") ∨
        ∃ next : ChangeState,
          event.lookup "action" = some (.str ("change." ++ next.text.map Char.toLower)) ∧
            x.lookup "status" = some (.str next.text) ∧
            event.lookup "newValue" = some (.obj x)
  | .activateConfigVersion environment version, event =>
      event.lookup "action" = some (.str "config.activate") ∧
        event.lookup "environment" = some (.str environment) ∧
        event.lookup "resource" =
          some (.str ((version.map fun number => (Json.num number).text).getD "NaN"))
  | _, _ => False

def PlatformState.logged (columns : ChangeColumns) (state : PlatformState)
    (event : JsObject) : Prop :=
  ∃ row ∈ state.audit, AuditEvent.ofParameters columns event = some row

/-! ## What the statements do to them -/

section Statements

variable {columns : ChangeColumns} {before after : PlatformState} {item : PlatformItem}

theorem upsertChange_holds {x : JsObject} {reply : Unit}
    (executed : executePlatform columns (.upsertChange x) before = .ok (reply, after))
    (held : after.holds item) :
    before.holds item ∨ leavesPlatformItem columns (.upsertChange x) item := by
  obtain ⟨row, accepted, rfl⟩ := executePlatform_upsertChange executed
  have isRow := (Option.filter_eq_some_iff.mp accepted).1
  cases item with
  | active environment version => exact Or.inl held
  | change changeId status =>
      obtain ⟨found, member, sameId, sameStatus⟩ := held
      rcases mem_upsertRow member with old | ⟨-, rfl⟩ | ⟨stored, isStored, rfl⟩
      · exact Or.inl ⟨found, old, sameId, sameStatus⟩
      · exact Or.inr ⟨found, isRow, sameId, sameStatus⟩
      · have sameKey : stored.changeId = row.changeId := key_of_findRow isStored
        exact Or.inr ⟨row, isRow, sameKey.symm.trans sameId, sameStatus⟩

theorem activateConfigVersion_holds {environment : String} {version : Option JsNumber}
    {reply : Unit}
    (executed : executePlatform columns (.activateConfigVersion environment version) before =
      .ok (reply, after))
    (held : after.holds item) :
    before.holds item ∨
      leavesPlatformItem columns (.activateConfigVersion environment version) item := by
  dsimp only [executePlatform] at executed
  split at executed
  · cases executed
  · next number isNumber =>
    split at executed
    · cases executed
      cases item with
      | change changeId status => exact Or.inl held
      | active activeIn active =>
          obtain ⟨found, member, sameEnvironment, sameVersion, isActive⟩ := held
          obtain ⟨config, stored, rfl⟩ := List.mem_map.mp member
          by_cases inEnvironment : config.environment = environment
          · rw [if_pos inEnvironment] at sameEnvironment sameVersion isActive
            have isNumbered : config.version = number := of_decide_eq_true isActive
            have isActiveVersion : number = active := isNumbered.symm.trans sameVersion
            exact Or.inr ⟨sameEnvironment.symm.trans inEnvironment,
              isNumber.trans (congrArg some isActiveVersion)⟩
          · rw [if_neg inEnvironment] at sameEnvironment sameVersion isActive
            exact Or.inl ⟨config, stored, sameEnvironment, sameVersion, isActive⟩
    · cases executed

theorem insertAudit_adds {event : JsObject} {reply : Unit}
    (executed : executePlatform columns (.insertAudit event) before = .ok (reply, after)) :
    ∃ row, AuditEvent.ofParameters columns event = some row ∧
      after = { before with audit := before.audit ++ [row] } := by
  dsimp only [executePlatform] at executed
  split at executed
  · cases executed
  · next row accepted =>
    cases executed
    exact ⟨row, accepted, rfl⟩

theorem executePlatform_holds {statement : PlatformStatement} {reply : statement.Reply}
    (executed : executePlatform columns statement before = .ok (reply, after))
    (held : after.holds item) :
    before.holds item ∨ (statement.writes ∧ leavesPlatformItem columns statement item) := by
  cases statement with
  | selectChange id =>
      obtain ⟨-, -, rfl, -⟩ := executePlatform_selectChange executed
      exact Or.inl held
  | upsertChange x =>
      exact (upsertChange_holds executed held).imp_right fun leaves => ⟨rfl, leaves⟩
  | activateConfigVersion environment version =>
      exact (activateConfigVersion_holds executed held).imp_right fun leaves => ⟨rfl, leaves⟩
  | insertAudit event =>
      obtain ⟨row, -, rfl⟩ := insertAudit_adds executed
      cases item with
      | change | active => exact Or.inl held

/-- No statement removes an audit event. -/
theorem executePlatform_audit {statement : PlatformStatement} {reply : statement.Reply}
    (executed : executePlatform columns statement before = .ok (reply, after)) :
    ∀ row ∈ before.audit, row ∈ after.audit := by
  cases statement with
  | selectChange id =>
      obtain ⟨-, -, rfl, -⟩ := executePlatform_selectChange executed
      exact fun _ member => member
  | upsertChange x =>
      obtain ⟨-, -, rfl⟩ := executePlatform_upsertChange executed
      exact fun _ member => member
  | activateConfigVersion environment version =>
      dsimp only [executePlatform] at executed
      split at executed
      · cases executed
      · split at executed
        · cases executed
          exact fun _ member => member
        · cases executed
  | insertAudit event =>
      obtain ⟨row, -, rfl⟩ := insertAudit_adds executed
      exact fun _ member => List.mem_append_left _ member

end Statements

/-- The repository as a store whose writes are recorded. -/
def platformTrail (columns : ChangeColumns) :
    RecordedStore Unit PlatformState PlatformStatement PlatformStatement.Reply ApiError
      PlatformItem JsObject where
  database _ := platformDatabase columns
  writes := PlatformStatement.writes
  entry := PlatformStatement.entry
  holds := PlatformState.holds
  leaves statement _ := leavesPlatformItem columns statement
  logged := PlatformState.logged columns
  accounts statement _ := accountsForPlatform statement
  holds_after executed held := executePlatform_holds executed held
  logged_after := by
    intro _ statement before reply after event executed isEntry
    cases statement with
    | selectChange | upsertChange | activateConfigVersion => cases isEntry
    | insertAudit inserted =>
        cases isEntry
        obtain ⟨row, accepted, rfl⟩ := insertAudit_adds executed
        exact ⟨row, List.mem_append_right _ (List.mem_singleton_self row), accepted⟩
  logged_kept := by
    rintro _ statement before reply after event executed ⟨row, member, accepted⟩
    exact ⟨row, executePlatform_audit executed row member, accepted⟩

/-! ## The programs -/

section Programs

variable {columns : ChangeColumns}

theorem owes_audit {statement : PlatformStatement} {reply : statement.Reply}
    {timestamp action : String}
    {actor resource environment correlationId oldValue newValue : Option Json}
    (accounts : ∀ event : JsObject,
      event.lookup "action" = some (.str action) → event.lookup "resource" = resource →
      event.lookup "environment" = environment → event.lookup "newValue" = newValue →
        accountsForPlatform statement event) :
    (platformTrail columns).Owes statement reply
      (ControlPlaneService.audit timestamp actor action resource environment correlationId
        oldValue newValue) := by
  refine owes_call rfl rfl (accounts _ ?_ ?_ ?_ ?_)
  · rw [lookup_defined (by simp)]
    rfl
  · rw [lookup_defined (by simp)]
    rfl
  · rw [lookup_defined (by simp)]
    rfl
  · rw [lookup_defined (by simp)]
    rfl

theorem requireChange_reads (id : String) :
    (ControlPlaneService.requireChange id).Issues fun statement =>
      (platformTrail columns).writes statement = false ∧
        (platformTrail columns).entry statement = none := by
  apply Program.issues_bind
  · intro change
    cases change with
    | none => exact True.intro
    | some change => exact True.intro
  · apply Program.issues_bind
    · exact fun _ => True.intro
    · exact Program.issues_call ⟨rfl, rfl⟩

theorem platformMutation_records (mutation : PlatformMutation) :
    (platformTrail columns).Records mutation.program := by
  cases mutation with
  | createChange context input =>
      apply Records.map
      apply records_check
      intro _
      refine records_call_write rfl rfl fun _ => Owes.map _ ?_
      exact owes_audit fun _ isAction isResource _ _ => Or.inl ⟨isAction, isResource⟩
  | transition context id next =>
      apply Records.map
      refine records_bind_reads (requireChange_reads id) ?_
      intro change
      apply records_check
      intro _
      refine records_call_write rfl rfl fun _ => Owes.map _ ?_
      have isStatus := (toObject_lookup
        (updatedChange context.now context.operator.userId change next)).2.1
      exact owes_audit fun _ isAction _ _ isNew => Or.inr ⟨next, isAction, isStatus, isNew⟩
  | activateConfig context environment version =>
      refine records_call_write rfl rfl fun _ => ?_
      exact owes_audit fun _ isAction isResource isEnvironment _ =>
        ⟨isAction, isEnvironment, isResource⟩

end Programs

/-! ## Runs -/

private def writesOverview (_ : Unit) : StoreMutation :=
  .setPage .overview (.obj []) "operator"

private def activatesFirst (_ : Unit) : PlatformMutation :=
  .activateConfig
    { operator := Operator.sre "operator" ["platform:write"]
      requestId := "request"
      now := "2026-01-01T00:00:00.000Z"
      randomId := "00000000-0000-4000-8000-000000000001" }
    "production" (some (.finite (1 : Int)))

end PlatformArchitecture.Section19
