import Mathlib.Data.Finset.Card
import PlatformArchitecture.ControlApi.DesiredStateReads
import PlatformArchitecture.ControlApi.StoreOperations

/-!
# The versions that `setDesiredState` records

Any number of calls set the desired or the actual state of one environment.
In PostgreSQL a call takes its version from the upsert and records it with a
second statement; in memory it does both at once.  The invariant orders the
calls by their upserts: the call at an index created the version two above it.
-/

namespace PlatformArchitecture.ControlApi

open PlatformArchitecture.Foundations
open PlatformArchitecture.Postgres

/-! ## Calls -/

inductive StateCall where
  | setDesired (value : Json) (actorId : String)
  | setActual (value : Json) (actorId : String)

namespace StateCall

def setsDesired : StateCall → Bool
  | setDesired _ _ => true
  | setActual _ _ => false

def operation : StateCall → StoreOperation
  | setDesired value actorId => .setDesiredState value actorId
  | setActual value actorId => .setActualState value actorId

def program : StateCall → StoreProgram Unit
  | setDesired value actorId => onRows (PostgresControlStore.setDesiredState value actorId)
  | setActual value actorId => PostgresControlStore.setActualState value actorId

end StateCall

/-- The version in an audit entry of `setDesiredState`. -/
def updatedVersion (payload : Json) : Option Json :=
  if payload.property "type" = some (.str "desired-state.updated") then
    payload.property "configVersion"
  else
    none

def updatedVersions (payloads : List Json) : List Json :=
  payloads.filterMap updatedVersion

def versionNumber (configVersion : Nat) : Json :=
  .num (.finite configVersion)

/-- The versions `2, 3, ..., count + 1`. -/
def versionsFromTwo (count : Nat) : List Json :=
  (List.range count).map fun index => versionNumber (index + 2)

abbrev StateWorld (Pid : Type) :=
  World Pid StoreTables StoreStatement StoreStatement.Reply ApiError Unit

def storeServer (Pid : Type) (columns : StoreColumns) :
    Server Pid (Delivery × Moment) StoreTables StoreStatement StoreStatement.Reply
      ApiError where
  outcome _ choice statement tables :=
    some ((storeDatabase columns choice.2).attempt choice.1 statement tables)
  disconnect _ tables := tables

def stateStart {Pid : Type} (calls : Pid → StateCall) : StateWorld Pid :=
  World.start emptyTables fun pid => (calls pid).program

/-- One call after the other in memory. -/
def callInMemory (collation : Collation) (store : InMemoryControlStore)
    (call : Nat × StateCall) : InMemoryControlStore :=
  (store.perform collation call.1 call.2.operation).2

/-- The audit entries of the memory store as documents. -/
def InMemoryControlStore.payloads (store : InMemoryControlStore) : List Json :=
  store.audit.map fun entry => .obj entry.fields

/-! ## Statements -/

/-- What a call of `setActualState` issues. -/
def StoreStatement.Observes : StoreStatement → Prop
  | .upsertActualState _ => True
  | .control (.insertAudit entry) =>
      entry.lookup "type" = some (.str "actual-state.observed")
  | _ => False

theorem updatedVersion_reparsed (entry : JsObject) :
    updatedVersion (Json.obj entry).reparsed =
      if (entry.lookup "type").map Json.reparsed = some (.str "desired-state.updated") then
        (entry.lookup "configVersion").map Json.reparsed
      else
        none := by
  simp only [updatedVersion, Json.reparsed, Json.property, Json.lookup_reparsedFields]

/-- The entry in which a call records its version. -/
def versionEntry (actorId : String) (configVersion : Nat) : JsObject :=
  [("type", .str "desired-state.updated"), ("actorId", .str actorId),
    ("configVersion", .num (.finite configVersion))]

theorem updatedVersion_versionEntry (actorId : String) (configVersion : Nat) :
    updatedVersion (Json.obj (versionEntry actorId configVersion)).reparsed =
      some (versionNumber configVersion) := by
  rw [updatedVersion_reparsed]
  rfl

theorem updatedVersions_append (before added : List Json) :
    updatedVersions (before ++ added) = updatedVersions before ++ updatedVersions added :=
  List.filterMap_append

section Statements

variable {columns : StoreColumns} {moment : Moment} {before after : StoreTables}

theorem executeStore_control {statement : ControlStatement} {reply : statement.Reply}
    (executed : executeStore columns moment (.control statement) before = .ok (reply, after)) :
    ∃ control,
      executeControl columns.toColumnTypes statement before.control = .ok (reply, control) ∧
        after = before.stamped columns moment statement control := by
  dsimp only [executeStore] at executed
  split at executed
  · split at executed
    · cases executed
    · next rest control inRows =>
      cases executed
      exact ⟨control, inRows, rfl⟩
  · cases executed

theorem executeStore_upsertDesiredState {value : Json} {configVersion : Nat}
    (executed : executeStore columns moment (.control (.upsertDesiredState value)) before =
      .ok (configVersion, after)) :
    configVersion = before.control.current.1 + 1 ∧
      after.control.current.1 = before.control.current.1 + 1 ∧
      after.control.audit = before.control.audit := by
  obtain ⟨control, inRows, rfl⟩ := executeStore_control executed
  dsimp only [executeControl] at inRows
  split at inRows
  · cases inRows
  · cases inRows
    cases stored : before.control.runtime with
    | none => simp [StoreTables.stamped, ControlState.current, stored]
    | some runtime => simp [StoreTables.stamped, ControlState.current, stored]

theorem executeStore_insertAudit {entry : JsObject} {reply : Unit}
    (executed : executeStore columns moment (.control (.insertAudit entry)) before =
      .ok (reply, after)) :
    after.control.current = before.control.current ∧
      after.control.audit = before.control.audit ++ [(Json.obj entry).reparsed] := by
  obtain ⟨control, inRows, rfl⟩ := executeStore_control executed
  cases inRows
  exact ⟨rfl, rfl⟩

theorem executeStore_upsertActualState {value : Json} {reply : Unit}
    (executed : executeStore columns moment (.upsertActualState value) before =
      .ok (reply, after)) :
    after.control.current = before.control.current ∧
      after.control.audit = before.control.audit := by
  dsimp only [executeStore] at executed
  split at executed
  · cases executed
  · cases executed
    cases stored : before.control.runtime with
    | none => simp [ControlState.current, stored]
    | some runtime => simp [ControlState.current, stored]

/-- A row that `setActualState` creates has the version and the desired state of
a missing row, and its audit entry records no version. -/
theorem executeStore_observes {statement : StoreStatement} {reply : statement.Reply}
    (observes : statement.Observes)
    (executed : executeStore columns moment statement before = .ok (reply, after)) :
    after.control.current = before.control.current ∧
      updatedVersions after.control.audit = updatedVersions before.control.audit := by
  cases statement with
  | upsertActualState value =>
      obtain ⟨sameState, sameAudit⟩ := executeStore_upsertActualState executed
      exact ⟨sameState, congrArg updatedVersions sameAudit⟩
  | control statement =>
      cases statement with
      | insertAudit entry =>
          obtain ⟨sameState, added⟩ := executeStore_insertAudit executed
          have isOther : entry.lookup "type" = some (.str "actual-state.observed") := observes
          have noVersion : updatedVersion (Json.obj entry).reparsed = none := by
            rw [updatedVersion_reparsed, isOther]
            exact if_neg (by decide)
          refine ⟨sameState, ?_⟩
          rw [added, updatedVersions_append]
          simp [updatedVersions, noVersion]
      | selectRuntime | upsertDesiredState | selectPage | upsertPage | selectChange
      | upsertChange => cases observes
  | selectActualState | selectChanges | selectAudit => cases observes

theorem setActualState_observes (value : Json) (actorId : String) :
    (PostgresControlStore.setActualState value actorId).Issues StoreStatement.Observes := by
  refine Program.issues_bind ?_ (Program.issues_call True.intro)
  intro _
  refine ⟨rfl, ?_⟩
  intro reply
  cases reply with
  | ok _ => exact True.intro
  | error _ => exact True.intro

end Statements

/-! ## The invariant -/

/-- Where a call stands, given the calls whose upsert took effect, in order, and
those whose audit entry did. -/
inductive CallPoint {Pid : Type} [DecidableEq Pid] (created recorded : List Pid)
    (pid : Pid) : StateCall → StoreProgram Unit → Prop
  | before {value : Json} {actorId : String} (fresh : pid ∉ created) :
      CallPoint created recorded pid (.setDesired value actorId)
        (onRows (PostgresControlStore.setDesiredState value actorId))
  | recording {value : Json} {actorId : String} (isCreated : pid ∈ created)
      (unrecorded : pid ∉ recorded) :
      CallPoint created recorded pid (.setDesired value actorId)
        (onRows (PostgresControlStore.recordAudit
          (versionEntry actorId (created.idxOf pid + 2))))
  | returned {value : Json} {actorId : String} (isRecorded : pid ∈ recorded) :
      CallPoint created recorded pid (.setDesired value actorId) (.done ())
  | failed {value : Json} {actorId : String} (error : ApiError) :
      CallPoint created recorded pid (.setDesired value actorId) (.fail error)
  | observing {value : Json} {actorId : String} {program : StoreProgram Unit}
      (issues : program.Issues StoreStatement.Observes) :
      CallPoint created recorded pid (.setActual value actorId) program

section Points

variable {Pid : Type} [DecidableEq Pid] {created recorded : List Pid} {pid other : Pid}
  {call : StateCall} {program : StoreProgram Unit}

/-- The upsert of one call leaves the others where they are. -/
theorem CallPoint.createdBy (different : other ≠ pid)
    (point : CallPoint created recorded other call program) :
    CallPoint (created ++ [pid]) recorded other call program := by
  cases point with
  | before fresh =>
      apply CallPoint.before
      intro member
      rcases List.mem_append.mp member with earlier | last
      · exact fresh earlier
      · exact different (List.mem_singleton.mp last)
  | @recording value actorId isCreated unrecorded =>
      have sameIndex : (created ++ [pid]).idxOf other = created.idxOf other :=
        List.idxOf_append_of_mem isCreated
      rw [← sameIndex]
      exact .recording (List.mem_append_left _ isCreated) unrecorded
  | returned isRecorded => exact .returned isRecorded
  | failed error => exact .failed error
  | observing issues => exact .observing issues

/-- So does its audit entry. -/
theorem CallPoint.recordedBy (different : other ≠ pid)
    (point : CallPoint created recorded other call program) :
    CallPoint created (recorded ++ [pid]) other call program := by
  cases point with
  | before fresh => exact .before fresh
  | recording isCreated unrecorded =>
      apply CallPoint.recording isCreated
      intro member
      rcases List.mem_append.mp member with earlier | last
      · exact unrecorded earlier
      · exact different (List.mem_singleton.mp last)
  | returned isRecorded => exact .returned (List.mem_append_left _ isRecorded)
  | failed error => exact .failed error
  | observing issues => exact .observing issues

end Points

/-- The calls in the order of their upserts number the versions. -/
structure Counted {Pid : Type} [DecidableEq Pid] (calls : Pid → StateCall)
    (world : StateWorld Pid) (created recorded : List Pid) : Prop where
  version : world.shared.control.current.1 = created.length + 1
  versions : updatedVersions world.shared.control.audit =
    recorded.map fun pid => versionNumber (created.idxOf pid + 2)
  distinct : created.Nodup
  once : recorded.Nodup
  known : ∀ pid ∈ recorded, pid ∈ created
  setsDesired : ∀ pid ∈ created, (calls pid).setsDesired
  points : ∀ pid program, world.programs pid = some program →
    CallPoint created recorded pid (calls pid) program

section Steps

variable {Pid : Type} [DecidableEq Pid] {columns : StoreColumns} {moment : Moment}
  {calls : Pid → StateCall} {world : StateWorld Pid} {created recorded : List Pid}
  {pid : Pid} {tables : StoreTables} {program : StoreProgram Unit}

/-- The points after one call has moved on. -/
theorem points_update {createdAfter recordedAfter : List Pid}
    (arrived : CallPoint createdAfter recordedAfter pid (calls pid) program)
    (others : ∀ other rest, other ≠ pid →
      CallPoint created recorded other (calls other) rest →
        CallPoint createdAfter recordedAfter other (calls other) rest)
    (counted : Counted calls world created recorded) :
    ∀ other rest, Function.update world.programs pid (some program) other = some rest →
      CallPoint createdAfter recordedAfter other (calls other) rest := by
  intro other rest running
  rcases update_cases running with ⟨rfl, moved⟩ | ⟨different, before⟩
  · cases moved
    exact arrived
  · exact others other rest different (counted.points other rest before)

/-- A statement that changes neither the version nor the recorded versions. -/
theorem Counted.quiet (counted : Counted calls world created recorded)
    (sameState : tables.control.current = world.shared.control.current)
    (sameVersions : updatedVersions tables.control.audit =
      updatedVersions world.shared.control.audit)
    (arrived : CallPoint created recorded pid (calls pid) program) :
    Counted calls
      { shared := tables, programs := Function.update world.programs pid (some program) }
      created recorded where
  version := (congrArg Prod.fst sameState).trans counted.version
  versions := sameVersions.trans counted.versions
  distinct := counted.distinct
  once := counted.once
  known := counted.known
  setsDesired := counted.setsDesired
  points := points_update arrived (fun _ _ _ point => point) counted

/-- An upsert takes effect. -/
theorem Counted.create (counted : Counted calls world created recorded)
    (fresh : pid ∉ created) (isDesired : (calls pid).setsDesired)
    (nextVersion : tables.control.current.1 = world.shared.control.current.1 + 1)
    (sameAudit : tables.control.audit = world.shared.control.audit)
    (arrived : CallPoint (created ++ [pid]) recorded pid (calls pid) program) :
    Counted calls
      { shared := tables, programs := Function.update world.programs pid (some program) }
      (created ++ [pid]) recorded where
  version := by
    rw [nextVersion, counted.version, List.length_append]
    rfl
  versions := by
    rw [sameAudit, counted.versions]
    apply List.map_congr_left
    intro other isRecorded
    rw [List.idxOf_append_of_mem (counted.known other isRecorded)]
  distinct := by
    rw [List.nodup_append]
    refine ⟨counted.distinct, List.nodup_singleton pid, ?_⟩
    intro earlier isEarlier last isLast same
    rw [List.mem_singleton.mp isLast] at same
    exact fresh (same ▸ isEarlier)
  once := counted.once
  known := fun other isRecorded => List.mem_append_left _ (counted.known other isRecorded)
  setsDesired := by
    intro other member
    rcases List.mem_append.mp member with earlier | last
    · exact counted.setsDesired other earlier
    · exact List.mem_singleton.mp last ▸ isDesired
  points :=
    points_update arrived (fun _ _ different point => point.createdBy different) counted

/-- An audit entry takes effect. -/
theorem Counted.record (counted : Counted calls world created recorded)
    {actorId : String} (isCreated : pid ∈ created) (unrecorded : pid ∉ recorded)
    (sameState : tables.control.current = world.shared.control.current)
    (added : tables.control.audit = world.shared.control.audit ++
      [(Json.obj (versionEntry actorId (created.idxOf pid + 2))).reparsed])
    (arrived : CallPoint created (recorded ++ [pid]) pid (calls pid) program) :
    Counted calls
      { shared := tables, programs := Function.update world.programs pid (some program) }
      created (recorded ++ [pid]) where
  version := (congrArg Prod.fst sameState).trans counted.version
  versions := by
    have recordsVersion := updatedVersion_versionEntry actorId (created.idxOf pid + 2)
    rw [added, updatedVersions_append, counted.versions, List.map_append]
    simp [updatedVersions, recordsVersion]
  distinct := counted.distinct
  once := by
    rw [List.nodup_append]
    refine ⟨counted.once, List.nodup_singleton pid, ?_⟩
    intro earlier isEarlier last isLast same
    rw [List.mem_singleton.mp isLast] at same
    exact unrecorded (same ▸ isEarlier)
  known := by
    intro other member
    rcases List.mem_append.mp member with earlier | last
    · exact counted.known other earlier
    · exact List.mem_singleton.mp last ▸ isCreated
  setsDesired := counted.setsDesired
  points :=
    points_update arrived (fun _ _ different point => point.recordedBy different) counted

/-- The upsert of a call, whatever becomes of it. -/
theorem Counted.upsert {value : Json} {actorId : String} {delivery : Delivery}
    {next : Except ApiError Nat → StoreProgram Unit} {reply : Except ApiError Nat}
    (counted : Counted calls world created recorded) (fresh : pid ∉ created)
    (isCall : calls pid = .setDesired value actorId)
    (current : onRows (PostgresControlStore.setDesiredState value actorId) =
      .perform (.control (.upsertDesiredState value)) next)
    (answer : (storeDatabase columns moment).attempt delivery
      (.control (.upsertDesiredState value)) world.shared = (reply, tables)) :
    ∃ created recorded, Counted calls
      { shared := tables
        programs := Function.update world.programs pid (some (next reply)) }
      created recorded := by
  cases current
  have isDesired : (calls pid).setsDesired := by rw [isCall]; rfl
  rcases (storeDatabase columns moment).attempt_cases delivery
      (.control (.upsertDesiredState value)) world.shared with
    ⟨error, failed⟩ | ⟨configVersion, after, executed, told | lost⟩
  · rw [failed] at answer
    cases answer
    exact ⟨created, recorded, counted.quiet rfl rfl (isCall ▸ .failed error)⟩
  · rw [told] at answer
    cases answer
    obtain ⟨isNext, nextVersion, sameAudit⟩ := executeStore_upsertDesiredState executed
    refine ⟨_, recorded, counted.create fresh isDesired nextVersion sameAudit ?_⟩
    have atEnd : (created ++ [pid]).idxOf pid = created.length := by
      rw [List.idxOf_append_of_notMem fresh]
      simp
    have isVersion : configVersion = (created ++ [pid]).idxOf pid + 2 := by
      rw [isNext, counted.version, atEnd]
    rw [isCall, isVersion]
    exact .recording (List.mem_append_right _ (List.mem_singleton_self pid))
      fun isRecorded => fresh (counted.known pid isRecorded)
  · rw [lost] at answer
    cases answer
    obtain ⟨-, nextVersion, sameAudit⟩ := executeStore_upsertDesiredState executed
    exact ⟨_, recorded,
      counted.create fresh isDesired nextVersion sameAudit (isCall ▸ .failed _)⟩

/-- The audit entry of a call, whatever becomes of it. -/
theorem Counted.insert {value : Json} {actorId : String} {delivery : Delivery}
    {next : Except ApiError Unit → StoreProgram Unit} {reply : Except ApiError Unit}
    (counted : Counted calls world created recorded) (isCreated : pid ∈ created)
    (unrecorded : pid ∉ recorded) (isCall : calls pid = .setDesired value actorId)
    (current : onRows (PostgresControlStore.recordAudit
        (versionEntry actorId (created.idxOf pid + 2))) =
      .perform (.control (.insertAudit (versionEntry actorId (created.idxOf pid + 2)))) next)
    (answer : (storeDatabase columns moment).attempt delivery
      (.control (.insertAudit (versionEntry actorId (created.idxOf pid + 2))))
        world.shared = (reply, tables)) :
    ∃ created recorded, Counted calls
      { shared := tables
        programs := Function.update world.programs pid (some (next reply)) }
      created recorded := by
  cases current
  rcases (storeDatabase columns moment).attempt_cases delivery
      (.control (.insertAudit (versionEntry actorId (created.idxOf pid + 2))))
      world.shared with
    ⟨error, failed⟩ | ⟨_, after, executed, told | lost⟩
  · rw [failed] at answer
    cases answer
    exact ⟨created, recorded, counted.quiet rfl rfl (isCall ▸ .failed error)⟩
  · rw [told] at answer
    cases answer
    obtain ⟨sameState, added⟩ := executeStore_insertAudit executed
    have isRecorded : pid ∈ recorded ++ [pid] :=
      List.mem_append_right _ (List.mem_singleton_self pid)
    exact ⟨created, _,
      counted.record isCreated unrecorded sameState added (isCall ▸ .returned isRecorded)⟩
  · rw [lost] at answer
    cases answer
    obtain ⟨sameState, added⟩ := executeStore_insertAudit executed
    exact ⟨created, _,
      counted.record isCreated unrecorded sameState added (isCall ▸ .failed _)⟩

/-- A statement of `setActualState`, whatever becomes of it. -/
theorem attempt_observes {statement : StoreStatement} {delivery : Delivery}
    {reply : Except ApiError statement.Reply} {before : StoreTables}
    (observes : statement.Observes)
    (answer : (storeDatabase columns moment).attempt delivery statement before =
      (reply, tables)) :
    tables.control.current = before.control.current ∧
      updatedVersions tables.control.audit = updatedVersions before.control.audit := by
  rcases (storeDatabase columns moment).attempt_cases delivery statement before with
    ⟨error, failed⟩ | ⟨_, after, executed, told | lost⟩
  · rw [failed] at answer
    cases answer
    exact ⟨rfl, rfl⟩
  · rw [told] at answer
    cases answer
    exact executeStore_observes observes executed
  · rw [lost] at answer
    cases answer
    exact executeStore_observes observes executed

/-- The step lemma. -/
theorem Counted.step (counted : Counted calls world created recorded)
    (event : Event Pid (Delivery × Moment)) :
    ∃ created recorded,
      Counted calls (world.step (storeServer Pid columns) event) created recorded := by
  cases event with
  | disconnect pid => exact ⟨created, recorded, { counted with }⟩
  | crash pid =>
      refine ⟨created, recorded, { counted with points := ?_ }⟩
      intro other program running
      exact counted.points other program (of_update_none running)
  | statement pid choice =>
      refine @World.statement_preserves _ _ _ _ _ _ _ _ _
        (fun after => ∃ created recorded, Counted calls after created recorded) _ _ _
        ⟨created, recorded, counted⟩ ?_
      intro statement next reply tables running answered
      have answer : (storeDatabase columns choice.2).attempt choice.1 statement
          world.shared = (reply, tables) := Option.some.inj answered
      have point := counted.points pid _ running
      generalize isCall : calls pid = call at point
      generalize current : Program.perform statement next = program at point
      cases point with
      | before fresh =>
          cases current
          exact counted.upsert fresh isCall rfl answer
      | recording isCreated unrecorded =>
          cases current
          exact counted.insert isCreated unrecorded isCall rfl answer
      | returned isRecorded => cases current
      | failed error => cases current
      | observing issues =>
          subst current
          obtain ⟨sameState, sameVersions⟩ := attempt_observes issues.1 answer
          exact ⟨created, recorded, counted.quiet sameState sameVersions
            (isCall ▸ .observing (issues.2 reply))⟩

end Steps

/-! ## Runs -/

section Runs

variable {Pid : Type} [DecidableEq Pid] {calls : Pid → StateCall} {world : StateWorld Pid}
  {created recorded : List Pid}

theorem counted_start (calls : Pid → StateCall) : Counted calls (stateStart calls) [] [] where
  version := rfl
  versions := rfl
  distinct := List.nodup_nil
  once := List.nodup_nil
  known _ member := by cases member
  setsDesired _ member := by cases member
  points := by
    intro pid program running
    obtain rfl : (calls pid).program = program := Option.some.inj running
    cases calls pid with
    | setDesired value actorId => exact .before List.not_mem_nil
    | setActual value actorId => exact .observing (setActualState_observes value actorId)

theorem counted_run (columns : StoreColumns) (calls : Pid → StateCall)
    (events : List (Event Pid (Delivery × Moment))) :
    ∃ created recorded,
      Counted calls (run (World.step (storeServer Pid columns)) (stateStart calls) events)
        created recorded := by
  refine @run_invariant_of_step _ _ _
    (fun world => ∃ created recorded, Counted calls world created recorded) ?_ _ events
      ⟨[], [], counted_start calls⟩
  rintro world event ⟨created, recorded, counted⟩
  exact counted.step event

theorem versionNumber_injective : Function.Injective versionNumber := by
  intro first second same
  unfold versionNumber at same
  simpa using same

/-- Different calls record different versions. -/
theorem Counted.nodup (counted : Counted calls world created recorded) :
    (updatedVersions world.shared.control.audit).Nodup := by
  rw [counted.versions]
  refine List.Nodup.map_on ?_ counted.once
  intro first isFirst second _isSecond same
  have sameIndex : created.idxOf first = created.idxOf second := by
    have sameVersion := versionNumber_injective same
    omega
  exact (List.idxOf_inj (counted.known first isFirst)).mp sameIndex

/-- The calls that have recorded their version are those that have returned. -/
theorem Counted.mem_recorded {returned : Finset Pid}
    (counted : Counted calls world created recorded)
    (areReturned : ∀ pid ∈ returned,
      (calls pid).setsDesired ∧ world.returned pid = some ())
    (othersBefore : ∀ pid ∉ returned, (calls pid).setsDesired →
      world.programs pid = some (calls pid).program) :
    (∀ pid, pid ∈ created ↔ pid ∈ returned) ∧ ∀ pid, pid ∈ recorded ↔ pid ∈ returned := by
  have inReturned : ∀ pid ∈ created, pid ∈ returned := by
    intro pid isCreated
    by_contra notReturned
    have isDesired := counted.setsDesired pid isCreated
    have point := counted.points pid _ (othersBefore pid notReturned isDesired)
    generalize isCall : calls pid = call at point isDesired
    generalize reached : call.program = program at point
    cases point with
    | before fresh => exact fresh isCreated
    | recording | returned | failed => cases reached
    | observing => cases isDesired
  have isRecorded : ∀ pid ∈ returned, pid ∈ recorded := by
    intro pid member
    obtain ⟨isDesired, ended⟩ := areReturned pid member
    have point := counted.points pid _ (World.returned_eq_some.mp ended)
    generalize isCall : calls pid = call at point isDesired
    generalize reached : (Program.done () : StoreProgram Unit) = program at point
    cases point with
    | returned isRecorded => exact isRecorded
    | before | recording | failed => cases reached
    | observing => cases isDesired
  refine ⟨fun pid => ⟨inReturned pid, ?_⟩, fun pid => ⟨?_, isRecorded pid⟩⟩
  · exact fun member => counted.known pid (isRecorded pid member)
  · exact fun member => inReturned pid (counted.known pid member)

/-- What the calls record when each of them has returned or not begun. -/
theorem Counted.perm {returned : Finset Pid}
    (counted : Counted calls world created recorded)
    (areReturned : ∀ pid ∈ returned,
      (calls pid).setsDesired ∧ world.returned pid = some ())
    (othersBefore : ∀ pid ∉ returned, (calls pid).setsDesired →
      world.programs pid = some (calls pid).program) :
    (updatedVersions world.shared.control.audit).Perm (versionsFromTwo returned.card) := by
  obtain ⟨inCreated, inRecorded⟩ := counted.mem_recorded areReturned othersBefore
  have sameCalls : recorded.Perm created := by
    rw [List.perm_ext_iff_of_nodup counted.once counted.distinct]
    exact fun pid => (inRecorded pid).trans (inCreated pid).symm
  have count : created.length = returned.card := by
    have sameSet : created.toFinset = returned := by
      ext pid
      rw [List.mem_toFinset]
      exact inCreated pid
    rw [← sameSet, List.toFinset_card_of_nodup counted.distinct]
  have inOrder : created.map (fun pid => versionNumber (created.idxOf pid + 2)) =
      versionsFromTwo created.length := by
    apply List.ext_getElem
    · simp [versionsFromTwo]
    · intro index inFirst inSecond
      have inList : index < created.length := by simpa using inFirst
      simp [versionsFromTwo, counted.distinct.idxOf_getElem]
  rw [counted.versions, ← count, ← inOrder]
  exact sameCalls.map _

/-- No statement of `setActualState` changes the version or the desired state. -/
theorem Counted.observed (columns : StoreColumns)
    (counted : Counted calls world created recorded) {pid : Pid}
    (isActual : ¬ (calls pid).setsDesired) (choice : Delivery × Moment) :
    (world.step (storeServer Pid columns) (.statement pid choice)).shared.control.current =
      world.shared.control.current := by
  rcases World.statement_cases (storeServer Pid columns) world pid choice with
    unchanged | ⟨statement, next, reply, tables, running, answered, moved⟩
  · rw [unchanged]
  rw [moved]
  have answer : (storeDatabase columns choice.2).attempt choice.1 statement world.shared =
      (reply, tables) := Option.some.inj answered
  have point := counted.points pid _ running
  generalize calls pid = call at point isActual
  generalize current : Program.perform statement next = program at point
  cases point with
  | before | recording | returned | failed => exact absurd rfl isActual
  | observing issues =>
      subst current
      exact (attempt_observes issues.1 answer).1

end Runs

/-! ## In memory -/

section Memory

variable {collation : Collation} {store : InMemoryControlStore}

/-- The memory store after a number of calls that set the desired state. -/
structure InMemoryControlStore.Counts (store : InMemoryControlStore) (count : Nat) :
    Prop where
  version : store.configVersion = count + 1
  versions : updatedVersions store.payloads = versionsFromTwo count

theorem versionsFromTwo_succ (count : Nat) :
    versionsFromTwo (count + 1) = versionsFromTwo count ++ [versionNumber (count + 2)] := by
  unfold versionsFromTwo
  rw [List.range_succ, List.map_append]
  rfl

/-- What an audit entry adds to the recorded versions. -/
theorem updatedVersions_recordAudit (now : Nat) (entry : JsObject)
    (store : InMemoryControlStore) :
    updatedVersions (store.recordAudit now entry).payloads =
      updatedVersions store.payloads ++ updatedVersions [.obj (untimed entry)] := by
  unfold InMemoryControlStore.payloads InMemoryControlStore.recordAudit
  rw [List.map_append, updatedVersions_append]
  rfl

/-- The calls that set the desired state. -/
def desiredCalls (calls : List (Nat × StateCall)) : Nat :=
  calls.countP fun call => call.2.setsDesired

theorem counts_callInMemory {count : Nat} (counts : store.Counts count)
    (call : Nat × StateCall) :
    (callInMemory collation store call).Counts (count + desiredCalls [call]) := by
  obtain ⟨now, call⟩ := call
  cases call with
  | setActual value actorId =>
      refine ⟨counts.version, ?_⟩
      have noVersion := updatedVersions_recordAudit now
        [("type", .str "actual-state.observed"), ("actorId", .str actorId)]
        { store with actualState := value }
      exact noVersion.trans ((List.append_nil _).trans counts.versions)
  | setDesired value actorId =>
      refine ⟨congrArg (· + 1) counts.version, ?_⟩
      have added := updatedVersions_recordAudit now
        (versionEntry actorId (store.configVersion + 1))
        { store with desiredState := value, configVersion := store.configVersion + 1 }
      calc
        updatedVersions (callInMemory collation store (now, .setDesired value actorId)).payloads
        _ = updatedVersions store.payloads ++ [versionNumber (store.configVersion + 1)] := added
        _ = versionsFromTwo count ++ [versionNumber (count + 2)] := by
          rw [counts.versions, counts.version]
        _ = versionsFromTwo (count + 1) := (versionsFromTwo_succ count).symm

/-- The run lemma. -/
theorem counts_run (collation : Collation) (calls : List (Nat × StateCall)) :
    ∀ {store : InMemoryControlStore} {count : Nat}, store.Counts count →
      (run (callInMemory collation) store calls).Counts (count + desiredCalls calls) := by
  induction calls with
  | nil =>
      intro store count counts
      exact counts
  | cons call rest inductionHypothesis =>
      intro store count counts
      have both : desiredCalls (call :: rest) = desiredCalls [call] + desiredCalls rest := by
        rw [← List.singleton_append]
        exact List.countP_append
      have next := inductionHypothesis (@counts_callInMemory collation store count counts call)
      rw [run_cons, both, ← Nat.add_assoc]
      exact next

theorem counts_new : InMemoryControlStore.new.Counts 0 where
  version := rfl
  versions := rfl

end Memory

/-! ## Both stores -/

/-- No two calls have recorded one version, the calls record exactly the
versions from two on once they have returned, and `setActualState` changes
neither the version nor the desired state. -/
structure RecordsVersions {Pid : Type} [DecidableEq Pid] (columns : StoreColumns)
    (calls : Pid → StateCall) (world : StateWorld Pid) : Prop where
  distinct : (updatedVersions world.shared.control.audit).Nodup
  exactly : ∀ returned : Finset Pid,
    (∀ pid ∈ returned, (calls pid).setsDesired ∧ world.returned pid = some ()) →
    (∀ pid ∉ returned, (calls pid).setsDesired →
      world.programs pid = some (calls pid).program) →
        (updatedVersions world.shared.control.audit).Perm (versionsFromTwo returned.card)
  observed : ∀ pid choice, ¬ (calls pid).setsDesired →
    (world.step (storeServer Pid columns) (.statement pid choice)).shared.control.current =
      world.shared.control.current

/-- In memory the calls record the versions in their order. -/
structure MemoryRecordsVersions (collation : Collation) (calls : List (Nat × StateCall))
    (store : InMemoryControlStore) : Prop where
  distinct : (updatedVersions store.payloads).Nodup
  exactly : updatedVersions store.payloads = versionsFromTwo (desiredCalls calls)
  observed : ∀ now value actorId,
    (callInMemory collation store (now, .setActual value actorId)).configVersion =
        store.configVersion ∧
      (callInMemory collation store (now, .setActual value actorId)).desiredState =
        store.desiredState

theorem nodup_versionsFromTwo (count : Nat) : (versionsFromTwo count).Nodup := by
  refine List.Nodup.map ?_ List.nodup_range
  intro first second same
  have sameVersion := versionNumber_injective same
  omega

/-- In every interleaving of calls over the shared tables, whatever becomes of
their statements, and in every order of calls in memory. -/
theorem configVersions_recorded {Pid : Type} [DecidableEq Pid] (columns : StoreColumns)
    (calls : Pid → StateCall) (events : List (Event Pid (Delivery × Moment)))
    (collation : Collation) (inMemory : List (Nat × StateCall)) :
    RecordsVersions columns calls
        (run (World.step (storeServer Pid columns)) (stateStart calls) events) ∧
      MemoryRecordsVersions collation inMemory
        (run (callInMemory collation) .new inMemory) := by
  obtain ⟨created, recorded, counted⟩ := counted_run columns calls events
  have counts := counts_run collation inMemory counts_new
  rw [Nat.zero_add] at counts
  constructor
  · exact
      { distinct := counted.nodup
        exactly := fun _ areReturned othersBefore => counted.perm areReturned othersBefore
        observed := fun _ choice isActual => counted.observed columns isActual choice }
  · refine ⟨?_, counts.versions, fun _ _ _ => ⟨rfl, rfl⟩⟩
    rw [counts.versions]
    exact nodup_versionsFromTwo _

end PlatformArchitecture.ControlApi
