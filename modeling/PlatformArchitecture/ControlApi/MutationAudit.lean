import PlatformArchitecture.ControlApi.StoreAgreement
import PlatformArchitecture.Foundations.RecordedWrites

/-!
# The audit trail of the control store

`setDesiredState`, `setActualState`, `setPage` and `saveChange` write with an
upsert and then insert an audit entry.  The store is a `RecordedStore`: its
items are the current states, the pages and the changes.
-/

namespace PlatformArchitecture.ControlApi

open PlatformArchitecture.Foundations
open PlatformArchitecture.Postgres

/-! ## Mutations -/

inductive StoreMutation where
  | setDesiredState (value : Json) (actorId : String)
  | setActualState (value : Json) (actorId : String)
  | setPage (page : ControlPage) (data : Json) (actorId : String)
  | saveChange (change : ChangeRequest)

def StoreMutation.program : StoreMutation → StoreProgram Unit
  | setDesiredState value actorId => onRows (PostgresControlStore.setDesiredState value actorId)
  | setActualState value actorId => PostgresControlStore.setActualState value actorId
  | setPage page data actorId => onRows (PostgresControlStore.setPage page (some data) actorId)
  | saveChange change => onRows (PostgresControlStore.saveChange change)

/-! ## Items and entries -/

/-- What the store holds: the version and the desired state, the observed state,
the data of a page, and the change under an id with its state. -/
inductive ControlItem where
  | desiredState (configVersion : Nat) (value : Json)
  | actualState (value : Json)
  | page (page : ControlPage) (data : Json)
  | change (changeId : String) (payload : ChangeRequest)

def StoreTables.holds (tables : StoreTables) : ControlItem → Prop
  | .desiredState configVersion value => tables.control.current = (configVersion, value)
  | .actualState value => tables.observed = value
  | .page page data => tables.page page = data
  | .change changeId payload => ⟨changeId, payload⟩ ∈ tables.control.changes

def StoreStatement.writes : StoreStatement → Bool
  | .control (.upsertDesiredState _) | .control (.upsertPage _ _) | .control (.upsertChange _)
  | .upsertActualState _ => true
  | _ => false

def StoreStatement.entry : StoreStatement → Option JsObject
  | .control (.insertAudit entry) => some entry
  | _ => none

/-- What an upsert leaves behind. -/
def leavesItem (columns : StoreColumns) :
    (statement : StoreStatement) → statement.Reply → ControlItem → Prop
  | .control (.upsertDesiredState value), version, .desiredState configVersion stored =>
      configVersion = version ∧ columns.jsonb value = some stored
  | .upsertActualState value, _, .actualState stored => columns.jsonb value = some stored
  | .control (.upsertPage written data), _, .page page stored =>
      page = written ∧ data.bind columns.jsonb = some stored
  | .control (.upsertChange change), _, .change changeId payload =>
      columns.uuid change.id = some changeId ∧ payload = change.reparsed
  | _, _, _ => False

/-- The entry says which write it is about. -/
def accountsFor : (statement : StoreStatement) → statement.Reply → JsObject → Prop
  | .control (.upsertDesiredState _), configVersion, entry =>
      ∃ actorId, entry = versionEntry actorId configVersion
  | .upsertActualState _, _, entry =>
      ∃ actorId : String,
        entry = [("type", .str "actual-state.observed"), ("actorId", .str actorId)]
  | .control (.upsertPage page _), _, entry =>
      ∃ actorId : String,
        entry = [("type", .str ("control-page." ++ page.text ++ ".updated")),
          ("actorId", .str actorId)]
  | .control (.upsertChange change), _, entry =>
      entry = [("type", .str "change.saved"), ("changeId", .str change.id),
        ("actorId", .str change.actorId), ("state", .str change.state.text)]
  | _, _, _ => False

def StoreTables.logged (tables : StoreTables) (entry : JsObject) : Prop :=
  (Json.obj entry).reparsed ∈ tables.control.audit

/-! ## What the statements do to them -/

section Statements

variable {columns : StoreColumns} {moment : Moment} {before after : StoreTables}
  {item : ControlItem}

theorem upsertDesiredState_holds {value : Json} {configVersion : Nat}
    (executed : executeStore columns moment (.control (.upsertDesiredState value)) before =
      .ok (configVersion, after))
    (held : after.holds item) :
    before.holds item ∨
      leavesItem columns (.control (.upsertDesiredState value)) configVersion item := by
  obtain ⟨control, inRows, rfl⟩ := executeStore_control executed
  dsimp only [executeControl] at inRows
  split at inRows
  · cases inRows
  · next stored accepted =>
    cases inRows
    cases item with
    | desiredState version desired =>
        cases held
        exact Or.inr ⟨rfl, accepted⟩
    | actualState observed =>
        have unchanged : before.observed = observed := by
          rw [← held]
          cases isStored : before.control.runtime with
          | none => simp [StoreTables.observed, StoreTables.stamped, isStored]
          | some runtime => simp [StoreTables.observed, StoreTables.stamped, isStored]
        exact Or.inl unchanged
    | page | change => exact Or.inl held

theorem upsertActualState_holds {value : Json} {reply : Unit}
    (executed : executeStore columns moment (.upsertActualState value) before =
      .ok (reply, after))
    (held : after.holds item) :
    before.holds item ∨ leavesItem columns (.upsertActualState value) reply item := by
  obtain ⟨sameState, -⟩ := executeStore_upsertActualState executed
  dsimp only [executeStore] at executed
  split at executed
  · cases executed
  · next stored accepted =>
    cases executed
    cases item with
    | desiredState version desired => exact Or.inl (sameState.symm.trans held)
    | actualState observed =>
        cases held
        exact Or.inr accepted
    | page | change => exact Or.inl held

theorem upsertPage_holds {written : ControlPage} {data : Option Json} {reply : Unit}
    (executed : executeStore columns moment (.control (.upsertPage written data)) before =
      .ok (reply, after))
    (held : after.holds item) :
    before.holds item ∨ leavesItem columns (.control (.upsertPage written data)) reply item := by
  obtain ⟨control, inRows, rfl⟩ := executeStore_control executed
  dsimp only [executeControl] at inRows
  split at inRows
  · cases inRows
  · next stored accepted =>
    cases inRows
    cases item with
    | desiredState | actualState | change => exact Or.inl held
    | page page found =>
        have isFound := data_of_upsertPage before.control.pages written page stored
          (.obj (initialPage page))
        have isItem := isFound.symm.trans held
        by_cases same : page = written
        · rw [if_pos same] at isItem
          exact Or.inr ⟨same, accepted.trans (congrArg some isItem)⟩
        · rw [if_neg same] at isItem
          exact Or.inl isItem

theorem upsertChange_holds {change : ChangeRequest} {reply : Unit}
    (executed : executeStore columns moment (.control (.upsertChange change)) before =
      .ok (reply, after))
    (held : after.holds item) :
    before.holds item ∨ leavesItem columns (.control (.upsertChange change)) reply item := by
  obtain ⟨control, inRows, rfl⟩ := executeStore_control executed
  obtain ⟨changeId, isUuid, rfl⟩ := executeControl_upsertChange inRows
  cases item with
  | desiredState | actualState | page => exact Or.inl held
  | change id payload =>
      rcases mem_upsertRow held with old | ⟨-, new⟩ | ⟨stored, -, merged⟩
      · exact Or.inl old
      · cases new
        exact Or.inr ⟨isUuid, rfl⟩
      · cases merged
        exact Or.inr ⟨isUuid, rfl⟩

/-- An item after a statement was there before, or the statement left it. -/
theorem executeStore_holds {statement : StoreStatement} {reply : statement.Reply}
    (executed : executeStore columns moment statement before = .ok (reply, after))
    (held : after.holds item) :
    before.holds item ∨ (statement.writes ∧ leavesItem columns statement reply item) := by
  cases statement with
  | selectActualState | selectChanges | selectAudit =>
      cases executed
      exact Or.inl held
  | upsertActualState value =>
      exact (upsertActualState_holds executed held).imp_right fun leaves => ⟨rfl, leaves⟩
  | control statement =>
      cases statement with
      | upsertDesiredState value =>
          exact (upsertDesiredState_holds executed held).imp_right fun leaves => ⟨rfl, leaves⟩
      | upsertPage page data =>
          exact (upsertPage_holds executed held).imp_right fun leaves => ⟨rfl, leaves⟩
      | upsertChange change =>
          exact (upsertChange_holds executed held).imp_right fun leaves => ⟨rfl, leaves⟩
      | selectRuntime | selectPage =>
          obtain ⟨control, inRows, rfl⟩ := executeStore_control executed
          cases inRows
          exact Or.inl held
      | selectChange id =>
          obtain ⟨control, inRows, rfl⟩ := executeStore_control executed
          obtain ⟨-, -, rfl, -⟩ := executeControl_selectChange inRows
          exact Or.inl held
      | insertAudit entry =>
          obtain ⟨control, inRows, rfl⟩ := executeStore_control executed
          cases inRows
          cases item with
          | desiredState | actualState | page | change => exact Or.inl held

/-- A statement appends to the audit rows or leaves them alone. -/
theorem executeStore_audit {statement : StoreStatement} {reply : statement.Reply}
    (executed : executeStore columns moment statement before = .ok (reply, after)) :
    after.control.audit =
      before.control.audit ++
        (statement.entry.map fun entry => (Json.obj entry).reparsed).toList := by
  have unchanged : ∀ {control : ControlState}, control = before.control →
      control.audit = before.control.audit ++ [] := by
    rintro control rfl
    exact (List.append_nil _).symm
  cases statement with
  | selectActualState | selectChanges | selectAudit =>
      cases executed
      exact unchanged rfl
  | upsertActualState value =>
      obtain ⟨-, sameAudit⟩ := executeStore_upsertActualState executed
      exact sameAudit.trans (List.append_nil _).symm
  | control statement =>
      obtain ⟨control, inRows, rfl⟩ := executeStore_control executed
      cases statement with
      | insertAudit entry =>
          cases inRows
          rfl
      | selectRuntime | selectPage =>
          cases inRows
          exact unchanged rfl
      | selectChange id =>
          obtain ⟨-, -, rfl, -⟩ := executeControl_selectChange inRows
          exact unchanged rfl
      | upsertDesiredState value =>
          obtain ⟨-, -, sameAudit⟩ := executeStore_upsertDesiredState executed
          exact sameAudit.trans (List.append_nil _).symm
      | upsertPage page data =>
          dsimp only [executeControl] at inRows
          split at inRows
          · cases inRows
          · cases inRows
            exact (List.append_nil _).symm
      | upsertChange change =>
          obtain ⟨-, -, rfl⟩ := executeControl_upsertChange inRows
          exact (List.append_nil _).symm

end Statements

/-- The control store as a store whose writes are recorded. -/
def controlTrail (columns : StoreColumns) :
    RecordedStore Moment StoreTables StoreStatement StoreStatement.Reply ApiError ControlItem
      JsObject where
  database := storeDatabase columns
  writes := StoreStatement.writes
  entry := StoreStatement.entry
  holds := StoreTables.holds
  leaves := leavesItem columns
  logged := StoreTables.logged
  accounts := accountsFor
  holds_after executed held := executeStore_holds executed held
  logged_after := by
    intro moment statement before reply after entry executed isEntry
    have added := executeStore_audit executed
    rw [isEntry] at added
    unfold StoreTables.logged
    rw [added]
    exact List.mem_append_right _ (List.mem_singleton_self _)
  logged_kept := by
    intro moment statement before reply after entry executed logged
    unfold StoreTables.logged
    rw [executeStore_audit executed]
    exact List.mem_append_left _ logged

/-! ## The programs -/

theorem owes_recordAudit {columns : StoreColumns} {statement : StoreStatement}
    {reply : statement.Reply} {entry : JsObject} (accounts : accountsFor statement reply entry) :
    (controlTrail columns).Owes statement reply
      (onRows (PostgresControlStore.recordAudit entry)) := by
  refine .next rfl rfl accounts ?_
  intro answer
  cases answer with
  | ok _ => rfl
  | error _ => rfl

theorem mutation_records (columns : StoreColumns) (mutation : StoreMutation) :
    (controlTrail columns).Records mutation.program := by
  cases mutation with
  | setDesiredState value actorId =>
      exact .write rfl rfl (fun _ => rfl) fun _ => owes_recordAudit ⟨actorId, rfl⟩
  | setActualState value actorId =>
      exact .write rfl rfl (fun _ => rfl) fun _ => owes_recordAudit ⟨actorId, rfl⟩
  | setPage page data actorId =>
      exact .write rfl rfl (fun _ => rfl) fun _ => owes_recordAudit ⟨actorId, rfl⟩
  | saveChange change =>
      exact .write rfl rfl (fun _ => rfl) fun _ => owes_recordAudit rfl

end PlatformArchitecture.ControlApi
