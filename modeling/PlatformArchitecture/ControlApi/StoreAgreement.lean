import PlatformArchitecture.ControlApi.VersionCounter
import PlatformArchitecture.Foundations.Run

/-!
# When the two control stores agree

A run gives the same operations to `InMemoryControlStore` and to
`PostgresControlStore`, whose statements are all answered.  They differ where
the columns do not give a value back, and in the order of their lists: memory
sorts changes by the time of their creation and keeps the audit history in the
order of recording, PostgreSQL sorts both by the time of the last write, the
newest first.
-/

namespace PlatformArchitecture.ControlApi

open PlatformArchitecture.Foundations
open PlatformArchitecture.Postgres

/-! ## Operations given to both -/

/-- An operation, and what the runtime supplies to it. -/
structure TimedOperation where
  operation : StoreOperation
  moment : Moment

structure StorePair where
  memory : InMemoryControlStore
  tables : StoreTables

def newPair : StorePair where
  memory := InMemoryControlStore.new
  tables := emptyTables

section Model

variable (columns : StoreColumns) (collation : Collation)

def inMemory (pair : StorePair) (timed : TimedOperation) :
    timed.operation.Reply × InMemoryControlStore :=
  pair.memory.perform collation timed.moment.audited timed.operation

def inDatabase (pair : StorePair) (timed : TimedOperation) :
    Except ApiError timed.operation.Reply × StoreTables :=
  timed.operation.program.run (storeDatabase columns timed.moment) [] pair.tables

def performBoth (pair : StorePair) (timed : TimedOperation) : StorePair where
  memory := (inMemory collation pair timed).2
  tables := (inDatabase columns pair timed).2

/-- Two answers that are alike apart from the order of properties and from
timestamps. -/
def StoreOperation.SameReply :
    (operation : StoreOperation) → operation.Reply → operation.Reply → Prop
  | .getDesiredState, left, right => left.sorted = right.sorted
  | .getActualState, left, right => left.sorted = right.sorted
  | .getPage _, left, right => left.sorted = right.sorted
  | .getConfigVersion, left, right => left = right
  | .getChange _, left, right => left = right
  | .listChanges, left, right => left = right
  | .auditHistory, left, right =>
      left.map StampedEntry.fields = right.map StampedEntry.fields
  | .setDesiredState _ _, _, _ => True
  | .setActualState _ _, _, _ => True
  | .setPage _ _ _, _, _ => True
  | .saveChange _, _, _ => True
  | .recordAudit _, _, _ => True

/-- The operation succeeds in the database with the answer of memory. -/
def SameAnswer (pair : StorePair) (timed : TimedOperation) : Prop :=
  ∃ answer, (inDatabase columns pair timed).1 = .ok answer ∧
    timed.operation.SameReply (inMemory collation pair timed).1 answer

/-! ## Where they agree -/

/-- A value that its column gives back, up to the order of properties. -/
def GivesBack (value : Json) : Prop :=
  (columns.jsonb value).map Json.sorted = some value.sorted

/-- An entry that the audit table takes and gives back. -/
def RecordsAlike (entry : JsObject) : Prop :=
  columns.entry entry ∧ (Json.obj entry).reparsed = .obj entry

/-- The two orders of the changes, from the one saved first on, are the same. -/
structure ListedAlike (tables : StoreTables) (changes : List ChangeRequest) : Prop where
  within : changes.length ≤ 500
  distinct : (changes.map fun change => tables.changedAt change.id).Nodup
  sameOrder : changes.Pairwise fun earlier later =>
    collation.le later.createdAt earlier.createdAt ↔
      tables.changedAt later.id ≤ tables.changedAt earlier.id

/-- The properties of the audit rows in the order of their insertion. -/
def StoreTables.entries (tables : StoreTables) : List JsObject :=
  tables.control.audit.map fun payload => untimed payload.entries

/-- The same from the newest row on. -/
def StoreTables.newestEntries (tables : StoreTables) : List JsObject :=
  ((tables.control.audit.zip tables.auditedAt).insertionSort
    fun left right => right.2 ≤ left.2).map fun row => untimed row.1.entries

/-- From the newest entry on, the history is what it is from the first one on. -/
structure HistoryAlike (tables : StoreTables) : Prop where
  within : tables.control.audit.length ≤ 1000
  distinct : tables.auditedAt.Nodup
  sameOrder : tables.newestEntries = tables.entries

/-- The entry that an operation records. -/
def StoreOperation.entry (configVersion : Nat) : StoreOperation → Option JsObject
  | .setDesiredState _ actorId => some (versionEntry actorId configVersion)
  | .setActualState _ actorId =>
      some [("type", .str "actual-state.observed"), ("actorId", .str actorId)]
  | .setPage page _ actorId =>
      some
        [("type", .str ("control-page." ++ page.text ++ ".updated")),
          ("actorId", .str actorId)]
  | .saveChange change =>
      some
        [("type", .str "change.saved"), ("changeId", .str change.id),
          ("actorId", .str change.actorId), ("state", .str change.state.text)]
  | .recordAudit entry => some entry
  | _ => none

/-- What the columns do with the values of an operation, and how the lists are
ordered when one of them is asked for. -/
def ValuesAgree (pair : StorePair) : StoreOperation → Prop
  | .setDesiredState value _ | .setActualState value _ | .setPage _ value _ =>
      GivesBack columns value
  | .saveChange change =>
      columns.uuid change.id = some change.id ∧ columns.change change ∧
        change.reparsed = change
  | .getChange id =>
      columns.uuid id = some id ∨
        ∃ changeId, columns.uuid id = some changeId ∧ pair.memory.getChange id = none ∧
          findRow ChangeRow.changeId changeId pair.tables.control.changes = none
  | .listChanges => ListedAlike collation pair.tables pair.memory.changes
  | .auditHistory => HistoryAlike pair.tables
  | _ => True

/-- The condition under which an operation is the same on both. -/
def Agreeable (pair : StorePair) (timed : TimedOperation) : Prop :=
  ValuesAgree columns collation pair timed.operation ∧
    ∀ entry ∈ timed.operation.entry (pair.memory.configVersion + 1),
      RecordsAlike columns entry

end Model

/-! ## The same contents -/

/-- The state as `getActualState` answers it. -/
def StoreTables.observed (tables : StoreTables) : Json :=
  (tables.control.runtime.map fun _ => tables.actualState).getD (.obj [])

/-- The page as `getPage` answers it. -/
def StoreTables.page (tables : StoreTables) (page : ControlPage) : Json :=
  ((findRow PageRow.page page tables.control.pages).map PageRow.data).getD
    (.obj (initialPage page))

def changeRow (change : ChangeRequest) : ChangeRow :=
  ⟨change.id, change⟩

/-- The two stores hold the same, apart from the order of properties and from
timestamps. -/
structure SameContents (memory : InMemoryControlStore) (tables : StoreTables) : Prop where
  desiredState : memory.desiredState.sorted = tables.control.current.2.sorted
  configVersion : memory.configVersion = tables.control.current.1
  actualState : memory.actualState.sorted = tables.observed.sorted
  pages : ∀ page, (memory.getPage page).sorted = (tables.page page).sorted
  changes : tables.control.changes = memory.changes.map changeRow
  audit : memory.audit.map StampedEntry.fields = tables.entries
  times : tables.auditedAt.length = tables.control.audit.length

theorem sameContents_new : SameContents newPair.memory newPair.tables where
  desiredState := rfl
  configVersion := rfl
  actualState := rfl
  pages page := by cases page <;> rfl
  changes := rfl
  audit := rfl
  times := rfl

/-! ## Statements -/

section Statements

variable {columns : StoreColumns} {moment : Moment} {tables : StoreTables}

/-- A statement that is answered. -/
theorem run_answered {Result : Type} {statement : StoreStatement} {reply : statement.Reply}
    {after : StoreTables} {next : Except ApiError statement.Reply → StoreProgram Result}
    (executed : executeStore columns moment statement tables = .ok (reply, after)) :
    (Program.perform statement next).run (storeDatabase columns moment) [] tables =
      (next (.ok reply)).run (storeDatabase columns moment) [] after := by
  have answered : (storeDatabase columns moment).attempt .answered statement tables =
      (.ok reply, after) := by
    have inDatabase : (storeDatabase columns moment).execute statement tables =
      .ok (reply, after) := executed
    unfold Database.attempt
    rw [inDatabase]
  exact congrArg (fun outcome =>
    (next outcome.1).run (storeDatabase columns moment) [] outcome.2) answered

theorem executeStore_of_control {statement : ControlStatement} {reply : statement.Reply}
    {control : ControlState} (takes : columns.accepts statement)
    (inRows : executeControl columns.toColumnTypes statement tables.control =
      .ok (reply, control)) :
    executeStore columns moment (.control statement) tables =
      .ok (reply, tables.stamped columns moment statement control) := by
  dsimp only [executeStore]
  rw [if_pos takes, inRows]

/-- The tables after an audit entry. -/
def StoreTables.recorded (moment : Moment) (entry : JsObject) (tables : StoreTables) :
    StoreTables :=
  { tables with
    control :=
      { tables.control with audit := tables.control.audit ++ [(Json.obj entry).reparsed] }
    auditedAt := tables.auditedAt ++ [moment.audited] }

/-- A write that succeeds and then records its entry. -/
theorem run_recorded {statement : StoreStatement} {reply : statement.Reply}
    {after : StoreTables} {entry : JsObject}
    {next : Except ApiError statement.Reply → StoreProgram Unit}
    (executed : executeStore columns moment statement tables = .ok (reply, after))
    (records : next (.ok reply) = onRows (PostgresControlStore.recordAudit entry))
    (takes : columns.entry entry) :
    (Program.perform statement next).run (storeDatabase columns moment) [] tables =
      (.ok (), after.recorded moment entry) := by
  rw [run_answered executed, records]
  exact run_answered (executeStore_of_control takes rfl)

end Statements

/-! ## Writes -/

section Writes

variable {columns : StoreColumns} {moment : Moment} {memory : InMemoryControlStore}
  {tables : StoreTables}

theorem stored_of_givesBack {value : Json} (givesBack : GivesBack columns value) :
    ∃ stored, columns.jsonb value = some stored ∧ stored.sorted = value.sorted :=
  Option.map_eq_some_iff.mp givesBack

theorem SameContents.recorded {entry : JsObject} (now : Nat)
    (same : SameContents memory tables) (alike : RecordsAlike columns entry) :
    SameContents (memory.recordAudit now entry) (tables.recorded moment entry) where
  desiredState := same.desiredState
  configVersion := same.configVersion
  actualState := same.actualState
  pages := same.pages
  changes := same.changes
  audit := by
    have added : (tables.recorded moment entry).entries = tables.entries ++ [untimed entry] := by
      unfold StoreTables.entries StoreTables.recorded
      rw [List.map_append, alike.2]
      rfl
    rw [added, ← same.audit]
    exact List.map_append
  times := by
    unfold StoreTables.recorded
    simp only [List.length_append, List.length_singleton, same.times]

/-- `setDesiredState` on both. -/
theorem SameContents.setDesiredState {value : Json} {actorId : String} (now : Nat)
    (same : SameContents memory tables) (givesBack : GivesBack columns value)
    (alike : RecordsAlike columns (versionEntry actorId (memory.configVersion + 1))) :
    ∃ after, (StoreOperation.setDesiredState value actorId).program.run
        (storeDatabase columns moment) [] tables = (.ok (), after) ∧
      SameContents (memory.setDesiredState now value actorId) after := by
  obtain ⟨stored, accepted, sameValue⟩ := stored_of_givesBack givesBack
  have inRows : executeControl columns.toColumnTypes (.upsertDesiredState value)
      tables.control =
        .ok (memory.configVersion + 1,
          { tables.control with runtime := some ⟨memory.configVersion + 1, stored⟩ }) := by
    rw [same.configVersion]
    dsimp only [executeControl]
    rw [accepted]
    cases isStored : tables.control.runtime with
    | none => simp [ControlState.current, isStored]
    | some runtime => simp [ControlState.current, isStored]
  have executed := @executeStore_of_control columns moment tables _ _ _ rfl inRows
  refine ⟨_, run_recorded executed rfl alike.1, ?_⟩
  refine SameContents.recorded now ?_ alike
  exact
    { desiredState := sameValue.symm
      configVersion := rfl
      actualState := by
        rw [same.actualState]
        cases isStored : tables.control.runtime with
        | none => simp [StoreTables.observed, StoreTables.stamped, isStored]
        | some runtime => simp [StoreTables.observed, StoreTables.stamped, isStored]
      pages := same.pages
      changes := same.changes
      audit := same.audit
      times := same.times }

/-- `setActualState` on both. -/
theorem SameContents.setActualState {value : Json} {actorId : String} (now : Nat)
    (same : SameContents memory tables) (givesBack : GivesBack columns value)
    (alike : RecordsAlike columns
      [("type", .str "actual-state.observed"), ("actorId", .str actorId)]) :
    ∃ after, (StoreOperation.setActualState value actorId).program.run
        (storeDatabase columns moment) [] tables = (.ok (), after) ∧
      SameContents (memory.setActualState now value actorId) after := by
  obtain ⟨stored, accepted, sameValue⟩ := stored_of_givesBack givesBack
  have executed : executeStore columns moment (.upsertActualState value) tables =
      .ok ((), { tables with
        control := { tables.control with
          runtime := some (tables.control.runtime.getD ⟨1, .obj []⟩) }
        actualState := stored }) := by
    dsimp only [executeStore]
    rw [accepted]
  obtain ⟨sameState, -⟩ := executeStore_upsertActualState executed
  refine ⟨_, run_recorded executed rfl alike.1, ?_⟩
  refine SameContents.recorded now ?_ alike
  exact
    { desiredState := same.desiredState.trans (congrArg (fun pair => pair.2.sorted) sameState.symm)
      configVersion := same.configVersion.trans (congrArg Prod.fst sameState.symm)
      actualState := sameValue.symm
      pages := same.pages
      changes := same.changes
      audit := same.audit
      times := same.times }

/-- A page after a page has been written. -/
theorem data_of_upsertPage (rows : List PageRow) (written page : ControlPage)
    (data fallback : Json) :
    ((findRow PageRow.page page
        (upsertRow PageRow.page replacePage ⟨written, data⟩ rows)).map PageRow.data).getD
          fallback =
      if page = written then data
      else ((findRow PageRow.page page rows).map PageRow.data).getD fallback := by
  rw [findRow_upsertRow fun _ _ => rfl]
  by_cases same : page = written
  · rw [if_pos same, if_pos same]
    cases findRow PageRow.page written rows with
    | none => rfl
    | some stored => rfl
  · rw [if_neg same, if_neg same]

/-- `setPage` on both. -/
theorem SameContents.setPage {page : ControlPage} {data : Json} {actorId : String} (now : Nat)
    (same : SameContents memory tables) (givesBack : GivesBack columns data)
    (alike : RecordsAlike columns
      [("type", .str ("control-page." ++ page.text ++ ".updated")),
        ("actorId", .str actorId)]) :
    ∃ after, (StoreOperation.setPage page data actorId).program.run
        (storeDatabase columns moment) [] tables = (.ok (), after) ∧
      SameContents (memory.setPage now page data actorId) after := by
  obtain ⟨stored, accepted, sameValue⟩ := stored_of_givesBack givesBack
  have inRows : executeControl columns.toColumnTypes (.upsertPage page (some data))
      tables.control =
        .ok ((), { tables.control with
          pages := upsertRow PageRow.page replacePage ⟨page, stored⟩ tables.control.pages }) := by
    dsimp only [executeControl, Option.bind_some]
    rw [accepted]
  have executed := @executeStore_of_control columns moment tables _ _ _ rfl inRows
  refine ⟨_, run_recorded executed rfl alike.1, ?_⟩
  refine SameContents.recorded now ?_ alike
  refine { same with pages := ?_ }
  intro other
  have inMemory := data_of_upsertPage memory.pages page other data (.obj (initialPage other))
  have inRows := data_of_upsertPage tables.control.pages page other stored
    (.obj (initialPage other))
  refine (congrArg Json.sorted inMemory).trans (Eq.trans ?_ (congrArg Json.sorted inRows).symm)
  by_cases isPage : other = page
  · rw [if_pos isPage, if_pos isPage]
    exact sameValue.symm
  · rw [if_neg isPage, if_neg isPage]
    exact same.pages other

/-- The rows of the changes after a change has been saved. -/
theorem upsertRow_changeRow (changes : List ChangeRequest) (change : ChangeRequest) :
    upsertRow ChangeRow.changeId replaceRow (changeRow change) (changes.map changeRow) =
      (upsertRow ChangeRequest.id replaceChange change changes).map changeRow :=
  upsertRow_map (fun _ => rfl) (fun _ _ => rfl) change changes

/-- `saveChange` on both. -/
theorem SameContents.saveChange {change : ChangeRequest} (now : Nat)
    (same : SameContents memory tables)
    (canonical : columns.uuid change.id = some change.id)
    (takes : columns.change change) (givesBack : change.reparsed = change)
    (alike : RecordsAlike columns
      [("type", .str "change.saved"), ("changeId", .str change.id),
        ("actorId", .str change.actorId), ("state", .str change.state.text)]) :
    ∃ after, (StoreOperation.saveChange change).program.run
        (storeDatabase columns moment) [] tables = (.ok (), after) ∧
      SameContents (memory.saveChange now change) after := by
  have inRows : executeControl columns.toColumnTypes (.upsertChange change) tables.control =
      .ok ((), { tables.control with
        changes := upsertRow ChangeRow.changeId replaceRow (changeRow change)
          tables.control.changes }) := by
    dsimp only [executeControl]
    rw [canonical, givesBack]
    rfl
  have executed :=
    @executeStore_of_control columns moment tables (.upsertChange change) _ _ takes inRows
  refine ⟨_, run_recorded executed rfl alike.1, ?_⟩
  refine SameContents.recorded now ?_ alike
  refine { same with changes := ?_ }
  have stored := upsertRow_changeRow memory.changes change
  rw [← same.changes] at stored
  exact stored

/-- `recordAudit` on both. -/
theorem SameContents.recordAudit {entry : JsObject} (now : Nat)
    (same : SameContents memory tables) (alike : RecordsAlike columns entry) :
    ∃ after, (StoreOperation.recordAudit entry).program.run
        (storeDatabase columns moment) [] tables = (.ok (), after) ∧
      SameContents (memory.recordAudit now entry) after := by
  refine ⟨tables.recorded moment entry, ?_, same.recorded now alike⟩
  exact run_answered (executeStore_of_control alike.1 rfl)

end Writes

/-! ## Reads -/

section Reads

variable {columns : StoreColumns} {collation : Collation} {moment : Moment}
  {memory : InMemoryControlStore} {tables : StoreTables}

theorem findRow_changeRow (id : String) (changes : List ChangeRequest) :
    (findRow ChangeRow.changeId id (changes.map changeRow)).map ChangeRow.payload =
      findRow ChangeRequest.id id changes := by
  have sameKey (change : ChangeRequest) : (changeRow change).changeId = change.id := rfl
  rw [findRow_map sameKey, Option.map_map]
  exact congrFun Option.map_id _

/-- `getChange` on both. -/
theorem SameContents.getChange {id : String} (same : SameContents memory tables)
    (agrees : columns.uuid id = some id ∨
      ∃ changeId, columns.uuid id = some changeId ∧ memory.getChange id = none ∧
        findRow ChangeRow.changeId changeId tables.control.changes = none) :
    (StoreOperation.getChange id).program.run (storeDatabase columns moment) [] tables =
      (.ok (memory.getChange id), tables) := by
  have answered : ∀ changeId, columns.uuid id = some changeId →
      (StoreOperation.getChange id).program.run (storeDatabase columns moment) [] tables =
        (.ok ((findRow ChangeRow.changeId changeId tables.control.changes).map
          ChangeRow.payload), tables) := by
    intro changeId isUuid
    have inRows : executeControl columns.toColumnTypes (.selectChange id) tables.control =
        .ok ((findRow ChangeRow.changeId changeId tables.control.changes).map
          ChangeRow.payload, tables.control) := by
      dsimp only [executeControl]
      rw [isUuid]
    have executed :=
      @executeStore_of_control columns moment tables (.selectChange id) _ _ rfl inRows
    exact run_answered executed
  rcases agrees with canonical | ⟨changeId, isUuid, notInMemory, notInRows⟩
  · rw [answered id canonical, same.changes, findRow_changeRow]
    rfl
  · rw [answered changeId isUuid, notInRows, notInMemory]
    rfl

/-- Distinct times list the changes in one order, the one of memory. -/
theorem SameContents.listChanges (same : SameContents memory tables)
    (alike : ListedAlike collation tables memory.changes) :
    tables.newestChanges moment = memory.listChanges collation := by
  have timesOfRows : tables.control.changes.map (fun row => tables.changedAt row.changeId) =
      memory.changes.map fun change => tables.changedAt change.id := by
    rw [same.changes, List.map_map]
    rfl
  have distinct : (tables.control.changes.map fun row =>
      tables.changedAt row.changeId).Nodup := by
    rw [timesOfRows]
    exact alike.distinct
  have oneOrder := insertionSort_newest_perm distinct
    (moment.changeRows_perm tables.control.changes)
  have sortedRows : (tables.control.changes.insertionSort fun left right =>
        tables.changedAt right.changeId ≤ tables.changedAt left.changeId) =
      (memory.listChanges collation).map changeRow := by
    have sameOrder := insertionSort_congr alike.sameOrder
    unfold InMemoryControlStore.listChanges
    rw [same.changes, sameOrder]
    exact (List.map_insertionSort
      (fun left right : ChangeRequest =>
        tables.changedAt right.id ≤ tables.changedAt left.id)
      (fun left right : ChangeRow =>
        tables.changedAt right.changeId ≤ tables.changedAt left.changeId)
      changeRow memory.changes fun _ _ _ _ => Iff.rfl).symm
  have count : ((memory.listChanges collation).map changeRow).length ≤ 500 := by
    unfold InMemoryControlStore.listChanges
    rw [List.length_map, List.length_insertionSort]
    exact alike.within
  unfold StoreTables.newestChanges
  rw [oneOrder, sortedRows, List.take_of_length_le count, List.map_map]
  exact List.map_id _

/-- Distinct times list the audit rows in one order. -/
theorem SameContents.auditHistory (same : SameContents memory tables)
    (alike : HistoryAlike tables) :
    (tables.newestAudit moment).map StampedEntry.fields =
      memory.audit.map StampedEntry.fields := by
  have times : (tables.control.audit.zip tables.auditedAt).map Prod.snd = tables.auditedAt :=
    List.map_snd_zip same.times.le
  have distinct : ((tables.control.audit.zip tables.auditedAt).map Prod.snd).Nodup := by
    rw [times]
    exact alike.distinct
  have oneOrder := insertionSort_newest_perm distinct
    (moment.auditRows_perm (tables.control.audit.zip tables.auditedAt))
  have count : ((tables.control.audit.zip tables.auditedAt).insertionSort
      fun left right => right.2 ≤ left.2).length ≤ 1000 := by
    rw [List.length_insertionSort, List.length_zip, same.times, Nat.min_self]
    exact alike.within
  unfold StoreTables.newestAudit
  rw [oneOrder, List.take_of_length_le count, List.map_map, same.audit, ← alike.sameOrder]
  rfl

end Reads

/-! ## Runs -/

section Runs

variable {columns : StoreColumns} {collation : Collation} {pair : StorePair}
  {timed : TimedOperation}

/-- The step lemma: an operation that meets the condition has the same answer on
both and leaves the same contents. -/
theorem agree_of_agreeable (same : SameContents pair.memory pair.tables)
    (agreeable : Agreeable columns collation pair timed) :
    SameAnswer columns collation pair timed ∧
      SameContents (performBoth columns collation pair timed).memory
        (performBoth columns collation pair timed).tables := by
  obtain ⟨operation, moment⟩ := timed
  obtain ⟨values, entries⟩ := agreeable
  have writes : ∀ written after, inMemory collation pair ⟨operation, moment⟩ = written →
      inDatabase columns pair ⟨operation, moment⟩ = after →
        (∃ answer, after.1 = .ok answer ∧ operation.SameReply written.1 answer) →
          SameContents written.2 after.2 →
            SameAnswer columns collation pair ⟨operation, moment⟩ ∧
              SameContents (performBoth columns collation pair ⟨operation, moment⟩).memory
                (performBoth columns collation pair ⟨operation, moment⟩).tables := by
    rintro _ _ rfl rfl answered contents
    exact ⟨answered, contents⟩
  cases operation with
  | getDesiredState =>
      exact ⟨⟨_, rfl, same.desiredState⟩, same⟩
  | getActualState =>
      exact ⟨⟨_, rfl, same.actualState⟩, same⟩
  | getConfigVersion =>
      exact ⟨⟨_, rfl, same.configVersion⟩, same⟩
  | getPage page =>
      exact ⟨⟨_, rfl, same.pages page⟩, same⟩
  | getChange id =>
      have answered := @SameContents.getChange columns moment _ _ id same values
      exact writes _ _ rfl answered ⟨_, rfl, rfl⟩ same
  | listChanges =>
      exact ⟨⟨_, rfl, (same.listChanges values).symm⟩, same⟩
  | auditHistory =>
      exact ⟨⟨_, rfl, (same.auditHistory values).symm⟩, same⟩
  | setDesiredState value actorId =>
      obtain ⟨after, performed, contents⟩ :=
        @SameContents.setDesiredState columns moment _ _ _ _ moment.audited same values
          (entries _ rfl)
      exact writes _ _ rfl performed ⟨_, rfl, True.intro⟩ contents
  | setActualState value actorId =>
      obtain ⟨after, performed, contents⟩ :=
        @SameContents.setActualState columns moment _ _ _ _ moment.audited same values
          (entries _ rfl)
      exact writes _ _ rfl performed ⟨_, rfl, True.intro⟩ contents
  | setPage page data actorId =>
      obtain ⟨after, performed, contents⟩ :=
        @SameContents.setPage columns moment _ _ _ _ _ moment.audited same values
          (entries _ rfl)
      exact writes _ _ rfl performed ⟨_, rfl, True.intro⟩ contents
  | saveChange change =>
      obtain ⟨canonical, takes, givesBack⟩ := values
      obtain ⟨after, performed, contents⟩ :=
        @SameContents.saveChange columns moment _ _ _ moment.audited same canonical takes
          givesBack (entries _ rfl)
      exact writes _ _ rfl performed ⟨_, rfl, True.intro⟩ contents
  | recordAudit entry =>
      obtain ⟨after, performed, contents⟩ :=
        @SameContents.recordAudit columns moment _ _ _ moment.audited same (entries _ rfl)
      exact writes _ _ rfl performed ⟨_, rfl, True.intro⟩ contents

end Runs

/-- Two stores with the same contents answer alike in every run whose operations
meet the condition, and hold the same contents after it. -/
theorem storesAgree_of_everyStep {columns : StoreColumns} {collation : Collation}
    {start : StorePair} {operations : List TimedOperation}
    (same : SameContents start.memory start.tables)
    (every : EveryStep (performBoth columns collation) (Agreeable columns collation) start
      operations) :
    EveryStep (performBoth columns collation) (SameAnswer columns collation) start
        operations ∧
      SameContents (run (performBoth columns collation) start operations).memory
        (run (performBoth columns collation) start operations).tables := by
  constructor
  · exact
      @everyStep_of_invariant _ _ _ _ _
        (fun pair : StorePair => SameContents pair.memory pair.tables)
        (fun _ _ same agreeable => (agree_of_agreeable same agreeable).2)
        (fun _ _ same agreeable => (agree_of_agreeable same agreeable).1) _ _ same every
  · exact
      @run_invariant _ _ _ _ (fun pair : StorePair => SameContents pair.memory pair.tables)
        (fun _ _ same agreeable => (agree_of_agreeable same agreeable).2) _ _ same every

/-! ## Two histories -/

def operatedAt (now : Nat) (operation : StoreOperation) : TimedOperation :=
  ⟨operation, .inOrder now now⟩

def draftCreatedAt (id now : String) : ChangeRequest :=
  ChangeStateMachine.create id now
    { operation := none
      capability := none
      desired := none
      environment := "production"
      actorId := "operator" }

def firstDraft : ChangeRequest :=
  draftCreatedAt "00000000-0000-4000-8000-000000000001" "2026-01-01T00:00:00.000Z"

def secondDraft : ChangeRequest :=
  draftCreatedAt "00000000-0000-4000-8000-000000000002" "2026-01-02T00:00:00.000Z"

/-- Two changes are saved in the order of their creation. -/
theorem savedChangesListedAlike :
    EveryStep (performBoth .verbatim .codePoints) (SameAnswer .verbatim .codePoints) newPair
      [operatedAt 1 (.saveChange firstDraft), operatedAt 2 .auditHistory,
        operatedAt 3 (.saveChange secondDraft), operatedAt 4 .listChanges] := by
  refine (storesAgree_of_everyStep sameContents_new ?_).1
  refine ⟨⟨⟨rfl, rfl, rfl⟩, ?_⟩, ⟨⟨by decide, by decide, rfl⟩, ?_⟩, ⟨⟨rfl, rfl, rfl⟩, ?_⟩,
    ⟨⟨by decide, by decide, by decide⟩, ?_⟩, True.intro⟩
  · rintro entry ⟨⟩
    exact ⟨rfl, rfl⟩
  · rintro entry ⟨⟩
  · rintro entry ⟨⟩
    exact ⟨rfl, rfl⟩
  · rintro entry ⟨⟩

/-- Of two entries, memory lists the one recorded first and PostgreSQL the
other one. -/
theorem auditHistoryReversed :
    ¬ EveryStep (performBoth .verbatim .codePoints) (SameAnswer .verbatim .codePoints) newPair
      [operatedAt 1 (.saveChange firstDraft), operatedAt 2 (.setActualState (.obj []) "system"),
        operatedAt 3 .auditHistory] := by
  rintro ⟨-, -, ⟨answer, answered, same⟩, -⟩
  cases answered
  have sameFields : (_ : List JsObject) = _ := same
  revert sameFields
  decide

end PlatformArchitecture.ControlApi
