import PlatformArchitecture.Foundations.Run
import PlatformArchitecture.Section19.AdapterContents

/-!
# When the two adapters agree

A run gives the same operations to both adapters.  They differ where the
dependencies of an environment are asked for, where a configuration or a change
is stored a second time, and where the columns do not give a value back.
-/

namespace PlatformArchitecture.Section19.Adapters

open PlatformArchitecture.Foundations

/-! ## Operations given to both -/

structure AdapterPair where
  memory : InMemoryControlPlaneRepository
  database : ControlPlaneDatabase

def AdapterPair.answers (columns : PostgresColumns) (pair : AdapterPair)
    (operation : RepositoryOperation) :
    Except ControlApi.ApiError operation.Reply × Except ControlApi.ApiError operation.Reply :=
  ((pair.memory.perform operation).1,
    (PostgresControlPlaneRepository.perform columns pair.database operation).1)

def performBoth (columns : PostgresColumns) (pair : AdapterPair)
    (operation : RepositoryOperation) : AdapterPair where
  memory := (pair.memory.perform operation).2
  database := (PostgresControlPlaneRepository.perform columns pair.database operation).2

/-- The operation succeeds on both. -/
def Succeeds (columns : PostgresColumns) (pair : AdapterPair)
    (operation : RepositoryOperation) : Prop :=
  ∃ left right, pair.answers columns operation = (.ok left, .ok right)

/-- The operation succeeds on both with the same answer. -/
def SameAnswer (columns : PostgresColumns) (pair : AdapterPair)
    (operation : RepositoryOperation) : Prop :=
  ∃ left right, pair.answers columns operation = (.ok left, .ok right) ∧
    operation.SameReply left right

/-! ## Where they agree -/

/-- An id that is its own canonical form, or names nothing in either adapter. -/
def CanonicalOrAbsent (columns : PostgresColumns) (id : String) (inMemory : Prop)
    (inDatabase : String → Prop) : Prop :=
  columns.uuid id = some id ∨
    (¬ inMemory ∧ ∀ stored, columns.uuid id = some stored → ¬ inDatabase stored)

/-- A stored version that reads as a number is the one that the number is bound
as. -/
def ReadsAs (columns : PostgresColumns) (version : Numeric)
    (stored : ConfigurationVersion Int) : Prop :=
  some (columns.number stored.version) = version →
    version.bind columns.integer = some stored.version

/-- An object of a change whose values the columns give back; a change that is
stored under its id has the columns that a second save leaves alone. -/
structure SavesWhole (columns : PostgresColumns) (database : ControlPlaneDatabase)
    (x : JsObject) (change : PlatformChange) : Prop where
  isObject : IsObjectOf x change
  held : HeldChange columns change
  keeps : ∀ stored, database.changes.find change.changeId = some stored →
    KeepsColumns change stored

/-- A configuration whose values the columns give back; one that is stored under
its version is of the same environment and creation. -/
structure SavesConfiguration (columns : PostgresColumns) (database : ControlPlaneDatabase)
    (x : ConfigurationVersion Numeric) : Prop where
  configuration : HeldDocument columns x.configuration
  createdAt : columns.timestamp x.createdAt = some x.createdAt
  readsAs : ∀ stored ∈ database.configs.rows, stored.environment = x.environment →
    ReadsAs columns x.version stored
  keeps : ∀ stored ∈ database.configs.rows,
    x.version.bind columns.integer = some stored.version →
      stored.environment = x.environment ∧ stored.createdBy = x.createdBy ∧
        stored.createdAt = x.createdAt

/-- The condition under which an operation is the same on both. -/
def Agreeable (columns : PostgresColumns) (pair : AdapterPair) : RepositoryOperation → Prop
  | .getCapability environment id =>
      CanonicalOrAbsent columns id
        (∃ x ∈ pair.memory.capabilities, x.environment = environment ∧ x.capabilityId = id)
        fun stored => ∃ r ∈ pair.database.capabilities.rows,
          r.environment = environment ∧ r.capabilityId = stored
  | .listDependencies environment =>
      ∀ dependency ∈ pair.database.dependencies,
        ∃ capability ∈ pair.database.capabilities.rows,
          capability.capabilityId = dependency.capabilityId ∧
            capability.environment = environment
  | .getChange id =>
      CanonicalOrAbsent columns id ((pair.memory.getChange id).isSome = true)
        fun stored => ∃ r ∈ pair.database.changes.rows, r.changeId = stored
  | .saveChange x => ∃ change, SavesWhole columns pair.database x change
  | .saveConfigVersion x => SavesConfiguration columns pair.database x
  | .activateConfigVersion environment version =>
      ∀ stored ∈ pair.database.configs.rows, stored.environment = environment →
        ReadsAs columns version stored
  | _ => True

/-! ## Reads -/

section Reads

variable {columns : PostgresColumns} {memory : InMemoryControlPlaneRepository}
  {database : ControlPlaneDatabase} {environment id : String}

theorem of_acceptedText {Value : Type} {rest : String → Except ControlApi.ApiError Value}
    {result : Value}
    (succeeds : (accepted (columns.text environment) >>= rest) = .ok result) :
    rest environment = .ok result := by
  obtain ⟨stored, isText, finishes⟩ := bind_eq_ok.mp succeeds
  have verbatim := columns.text_verbatim (accepted_eq_ok.mp isText)
  rw [← verbatim]
  exact finishes

/-- The records of an environment in memory are those that its rows are read
as, in whatever order. -/
theorem sameValues_ofEnvironment {Row Record : Type} {records : List Record}
    {rows : List Row} {read : Row → Record} {sorted : Record → Record}
    (environmentOf : Record → String)
    (same : SameValues (records.map sorted) (rows.map fun r => sorted (read r)))
    (unsorted : ∀ x, environmentOf (sorted x) = environmentOf x)
    (order : Row → Row → Prop) [DecidableRel order] :
    SameValues
      ((records.filter fun x => environmentOf x = environment).map sorted)
      ((((rows.filter fun r => environmentOf (read r) = environment).insertionSort
        order).map read).map sorted) := by
  have filtered := same.filter_map (fun x => decide (environmentOf x = environment))
    (fun x => by rw [unsorted x]) (fun r => by rw [unsorted (read r)])
  have permuted : (((rows.filter fun r => environmentOf (read r) = environment).map fun r =>
      sorted (read r))).Perm
        ((((rows.filter fun r => environmentOf (read r) = environment).insertionSort
          order).map read).map sorted) := by
    rw [List.map_map]
    exact (List.perm_insertionSort order _).symm.map _
  exact filtered.trans (SameValues.of_perm permuted)

theorem sameReply_listCapabilities (same : SameContents columns memory database)
    {answer : List (PlatformCapability Numeric)}
    (succeeds : PostgresControlPlaneRepository.listCapabilities columns database environment =
      .ok answer) :
    SameValues ((memory.listCapabilities environment).map PlatformCapability.sorted)
      (answer.map PlatformCapability.sorted) := by
  cases of_acceptedText succeeds
  exact
    sameValues_ofEnvironment PlatformCapability.environment same.capabilities
      (fun _ => rfl) _

theorem sameReply_listConfigVersions (same : SameContents columns memory database)
    {answer : List (ConfigurationVersion Numeric)}
    (succeeds : PostgresControlPlaneRepository.listConfigVersions columns database
      environment = .ok answer) :
    SameValues ((memory.listConfigVersions environment).map ConfigurationVersion.sorted)
      (answer.map ConfigurationVersion.sorted) := by
  cases of_acceptedText succeeds
  exact
    sameValues_ofEnvironment ConfigurationVersion.environment same.configs
      (fun _ => rfl) _

theorem sameReply_providerHealth (same : SameContents columns memory database)
    {answer : List (ProviderHealth Numeric)}
    (succeeds : PostgresControlPlaneRepository.providerHealth columns database environment =
      .ok answer) :
    SameValues ((memory.providerHealth environment).map ProviderHealth.sorted)
      (answer.map ProviderHealth.sorted) := by
  cases of_acceptedText succeeds
  exact sameValues_ofEnvironment ProviderHealth.environment same.health (fun _ => rfl) _

/-- The dependencies that the join leaves. -/
theorem mem_listDependencies {answer : List CapabilityDependency}
    (succeeds : PostgresControlPlaneRepository.listDependencies columns database environment =
      .ok answer) (dependency : CapabilityDependency) :
    dependency ∈ answer ↔
      dependency ∈ database.dependencies ∧
        ∃ capability ∈ database.capabilities.rows,
          capability.capabilityId = dependency.capabilityId ∧
            capability.environment = environment := by
  cases of_acceptedText succeeds
  constructor
  · intro member
    obtain ⟨joined, isJoined, rfl⟩ := List.mem_map.mp member
    obtain ⟨stored, inTable, inJoin⟩ := List.mem_flatMap.mp isJoined
    obtain ⟨capability, selected, rfl⟩ := List.mem_map.mp inJoin
    obtain ⟨isCapability, matching⟩ := List.mem_filter.mp selected
    rw [Bool.and_eq_true, decide_eq_true_eq, decide_eq_true_eq] at matching
    exact ⟨inTable, capability, isCapability, matching⟩
  · rintro ⟨inTable, capability, isCapability, sameId, ofEnvironment⟩
    apply List.mem_map.mpr
    refine ⟨dependency, ?_, rfl⟩
    apply List.mem_flatMap.mpr
    refine ⟨dependency, inTable, ?_⟩
    apply List.mem_map.mpr
    refine ⟨capability, ?_, rfl⟩
    rw [List.mem_filter, Bool.and_eq_true, decide_eq_true_eq, decide_eq_true_eq]
    exact ⟨isCapability, sameId, ofEnvironment⟩

theorem sameReply_listDependencies (same : SameContents columns memory database)
    (agreeable : Agreeable columns ⟨memory, database⟩ (.listDependencies environment))
    {answer : List CapabilityDependency}
    (succeeds : PostgresControlPlaneRepository.listDependencies columns database environment =
      .ok answer) :
    SameValues (memory.listDependencies environment) answer := by
  intro dependency
  have stored := same.dependencies dependency
  change dependency ∈ memory.dependencies ↔ dependency ∈ answer
  rw [mem_listDependencies succeeds, stored]
  have unmapped : database.dependencies.map PostgresControlPlaneRepository.d =
      database.dependencies :=
    List.map_id _
  rw [unmapped]
  constructor
  · intro member
    exact ⟨member, agreeable dependency member⟩
  · rintro ⟨member, -⟩
    exact member

theorem sameReply_getChange (same : SameContents columns memory database)
    (agreeable : Agreeable columns ⟨memory, database⟩ (.getChange id))
    {answer : Option JsObject}
    (succeeds : PostgresControlPlaneRepository.getChange columns database id = .ok answer) :
    Option.Rel SameObject (memory.getChange id) answer := by
  obtain ⟨stored, isUuid, finishes⟩ := bind_eq_ok.mp succeeds
  have canonical := accepted_eq_ok.mp isUuid
  cases finishes
  rcases agreeable with isCanonical | ⟨absent, missing⟩
  · rw [isCanonical] at canonical
    cases canonical
    exact same.changes id
  · have notInMemory : memory.getChange id = none :=
      Option.not_isSome_iff_eq_none.mp absent
    have notInDatabase : database.changes.find stored = none := by
      rw [KeyedTable.find_eq_none_iff]
      intro row member sameId
      exact missing stored canonical ⟨row, member, sameId⟩
    rw [notInMemory, notInDatabase]
    exact Option.Rel.none

theorem getCapability_eq_some {x : PlatformCapability Numeric}
    (found : memory.getCapability environment id = some x) :
    x ∈ memory.capabilities ∧ x.environment = environment ∧ x.capabilityId = id := by
  have matching := List.find?_some found
  rw [Bool.and_eq_true, decide_eq_true_eq, decide_eq_true_eq] at matching
  exact ⟨List.mem_of_find?_eq_some found, matching⟩

theorem getCapability_eq_none {x : PlatformCapability Numeric}
    (missing : memory.getCapability environment id = none) (member : x ∈ memory.capabilities)
    (ofEnvironment : x.environment = environment) : x.capabilityId ≠ id := by
  intro sameId
  have fails := List.find?_eq_none.mp missing x member
  simp [ofEnvironment, sameId] at fails

theorem sameReply_getCapability (same : SameContents columns memory database)
    (agreeable : Agreeable columns ⟨memory, database⟩ (.getCapability environment id))
    {answer : Option (PlatformCapability Numeric)}
    (succeeds : PostgresControlPlaneRepository.getCapability columns database environment id =
      .ok answer) :
    (memory.getCapability environment id).map PlatformCapability.sorted =
      answer.map PlatformCapability.sorted := by
  obtain ⟨stored, isUuid, finishes⟩ := bind_eq_ok.mp (of_acceptedText succeeds)
  have canonical := accepted_eq_ok.mp isUuid
  cases finishes
  rcases agreeable with isCanonical | ⟨absent, missing⟩
  · rw [isCanonical] at canonical
    cases canonical
    cases found : memory.getCapability environment id with
    | some x =>
        obtain ⟨member, ofEnvironment, sameId⟩ := getCapability_eq_some found
        obtain ⟨r, stored, isRow⟩ :=
          List.mem_map.mp ((same.capabilities _).mp (List.mem_map_of_mem member))
        have rowId : r.capabilityId = id :=
          (congrArg PlatformCapability.capabilityId isRow).trans sameId
        have rowEnvironment : r.environment = environment :=
          (congrArg PlatformCapability.environment isRow).trans ofEnvironment
        have isFound := database.capabilities.find_eq_some_iff.mpr ⟨stored, rowId⟩
        rw [isFound, Option.filter_some, if_pos (by simpa using rowEnvironment)]
        exact congrArg some isRow.symm
    | none =>
        cases isFound : database.capabilities.find id with
        | none => rfl
        | some r =>
            obtain ⟨stored, rowId⟩ := database.capabilities.find_eq_some_iff.mp isFound
            have elsewhere : r.environment ≠ environment := by
              intro ofEnvironment
              obtain ⟨x, member, isRecord⟩ :=
                List.mem_map.mp ((same.capabilities _).mpr (List.mem_map_of_mem stored))
              apply getCapability_eq_none found member
              · exact (congrArg PlatformCapability.environment isRecord).trans ofEnvironment
              · exact (congrArg PlatformCapability.capabilityId isRecord).trans rowId
            rw [Option.filter_some, if_neg (by simpa using elsewhere)]
            rfl
  · have notInMemory : memory.getCapability environment id = none := by
      cases found : memory.getCapability environment id with
      | none => rfl
      | some x => exact absurd ⟨x, getCapability_eq_some found⟩ absent
    rw [notInMemory]
    cases isFound : database.capabilities.find stored with
    | none => rfl
    | some r =>
        obtain ⟨member, rowId⟩ := database.capabilities.find_eq_some_iff.mp isFound
        have elsewhere : r.environment ≠ environment := by
          intro ofEnvironment
          exact missing stored canonical ⟨r, member, ofEnvironment, rowId⟩
        rw [Option.filter_some, if_neg (by simpa using elsewhere)]
        rfl

end Reads

/-! ## Writes -/

section Writes

variable {columns : PostgresColumns} {memory : InMemoryControlPlaneRepository}
  {database after : ControlPlaneDatabase}

/-- The row that a saved change leaves gives the change back. -/
theorem givesBack_saved {x : JsObject} {change row : PlatformChange}
    (saves : SavesWhole columns database x change)
    (isRow : PlatformChange.ofParameters columns.toChangeColumns x = some row) :
    GivesBack change
      (mergedRow PlatformChange.updatedTo row (database.changes.find row.changeId)) := by
  have givesBack := givesBack_of_held saves.held saves.isObject isRow
  cases found : database.changes.find row.changeId with
  | none => exact givesBack
  | some stored =>
      have sameKey := (database.changes.find_eq_some_iff.mp found).2
      rw [givesBack.changeId] at found
      exact givesBack.updatedTo sameKey (saves.keeps stored found)

theorem sameContents_saveChange (same : SameContents columns memory database)
    {x : JsObject} {change : PlatformChange} (saves : SavesWhole columns database x change)
    (succeeds : PostgresControlPlaneRepository.saveChange columns database x = .ok after) :
    SameContents columns (memory.saveChange x) after := by
  obtain ⟨row, isAccepted, finishes⟩ := bind_eq_ok.mp succeeds
  obtain ⟨isRow, -⟩ := Option.filter_eq_some_iff.mp (accepted_eq_ok.mp isAccepted)
  cases finishes
  have givesBack := givesBack_saved saves isRow
  have rowKey := (givesBack_of_held saves.held saves.isObject isRow).changeId
  have key : changeKey x = some (.str row.changeId) := by
    unfold changeKey
    rw [saves.isObject, lookup_toObject, rowKey]
    rfl
  refine
    { capabilities := same.capabilities
      dependencies := same.dependencies
      changes := ?_
      configs := same.configs
      health := same.health }
  intro id
  have inMemory : (memory.saveChange x).getChange id =
      if id = row.changeId then some x else memory.getChange id := by
    unfold InMemoryControlPlaneRepository.getChange InMemoryControlPlaneRepository.saveChange
    rw [findRow_upsertRow fun _ _ => rfl, key]
    simp only [Option.some.injEq, Json.str.injEq]
    split
    · cases findRow changeKey (some (.str row.changeId)) memory.changes with
      | none => rfl
      | some stored => rfl
    · rfl
  change Option.Rel SameObject _
    (((database.changes.upsert PlatformChange.updatedTo row
      (PostgresControlPlaneRepository.updatedTo_changeId row)).find id).map fun r =>
        r.ch.toObject)
  rw [inMemory, KeyedTable.find_upsert]
  by_cases saved : id = row.changeId
  · rw [if_pos saved, if_pos saved]
    exact Option.Rel.some (sameObject_of_sortedChange saves.isObject givesBack.sortedChange_eq)
  · rw [if_neg saved, if_neg saved]
    exact same.changes id

/-- The row that a configuration is inserted as. -/
theorem configurationRow_eq_some {x : ConfigurationVersion Numeric}
    {row : ConfigurationVersion Int}
    (isRow : PostgresControlPlaneRepository.configurationRow columns x = some row) :
    x.version.bind columns.integer = some row.version ∧ row.environment = x.environment ∧
      columns.jsonb x.configuration = some row.configuration ∧
        row.createdBy = x.createdBy ∧ columns.timestamp x.createdAt = some row.createdAt ∧
          row.active = x.active := by
  obtain ⟨version, isVersion, isRow⟩ := Option.bind_eq_some_iff.mp isRow
  obtain ⟨environment, isEnvironment, isRow⟩ := Option.bind_eq_some_iff.mp isRow
  obtain ⟨configuration, isConfiguration, isRow⟩ := Option.bind_eq_some_iff.mp isRow
  obtain ⟨createdBy, isCreatedBy, isRow⟩ := Option.bind_eq_some_iff.mp isRow
  obtain ⟨createdAt, isCreatedAt, isRow⟩ := Option.bind_eq_some_iff.mp isRow
  cases isRow
  exact
    ⟨isVersion, columns.text_verbatim isEnvironment, isConfiguration,
      columns.text_verbatim isCreatedBy, isCreatedAt, rfl⟩

/-- A number that a stored version reads as is the one it was bound as. -/
theorem number_of_bound {version : Numeric} {stored : Int}
    (isVersion : version.bind columns.integer = some stored) :
    some (columns.number stored) = version := by
  obtain ⟨value, rfl, bound⟩ := Option.bind_eq_some_iff.mp isVersion
  exact congrArg some (columns.number_integer bound)

/-- The row that a saved configuration leaves is read as the configuration. -/
theorem cfg_saved {x : ConfigurationVersion Numeric} {row : ConfigurationVersion Int}
    (saves : SavesConfiguration columns database x)
    (isRow : PostgresControlPlaneRepository.configurationRow columns x = some row) :
    (PostgresControlPlaneRepository.cfg columns
        (mergedRow PostgresControlPlaneRepository.updatedConfiguration row
          (database.configs.find row.version))).sorted = x.sorted := by
  obtain ⟨isVersion, environment, configuration, createdBy, createdAt, active⟩ :=
    configurationRow_eq_some isRow
  have number := number_of_bound isVersion
  have document := document_held saves.configuration configuration
  rw [saves.createdAt, Option.some.injEq] at createdAt
  cases found : database.configs.find row.version with
  | none =>
      cases x
      simp_all [PostgresControlPlaneRepository.cfg, ConfigurationVersion.sorted]
  | some stored =>
      obtain ⟨member, sameVersion⟩ := database.configs.find_eq_some_iff.mp found
      have kept := saves.keeps stored member (sameVersion ▸ isVersion)
      cases x
      simp_all [PostgresControlPlaneRepository.cfg, ConfigurationVersion.sorted,
        PostgresControlPlaneRepository.updatedConfiguration]

/-- A stored row that a saved configuration leaves alone is under another
version, as it is in memory. -/
theorem kept_iff {x : ConfigurationVersion Numeric} {number : Int}
    (saves : SavesConfiguration columns database x)
    (isVersion : x.version.bind columns.integer = some number)
    {stored : ConfigurationVersion Int} (member : stored ∈ database.configs.rows) :
    stored.version ≠ number ↔
      (!(decide (stored.environment = x.environment) &&
        strictEquals (some (columns.number stored.version)) x.version)) = true := by
  rw [Bool.not_eq_true', ← Bool.not_eq_true, ne_eq, not_iff_not, Bool.and_eq_true,
    decide_eq_true_iff, strictEquals_iff]
  constructor
  · rintro rfl
    refine ⟨(saves.keeps stored member isVersion).1, number_of_bound isVersion, ?_⟩
    simp
  · rintro ⟨ofEnvironment, same, -⟩
    have bound := saves.readsAs stored member ofEnvironment same
    rw [isVersion, Option.some.injEq] at bound
    exact bound.symm

theorem sameContents_saveConfigVersion (same : SameContents columns memory database)
    {x : ConfigurationVersion Numeric} (saves : SavesConfiguration columns database x)
    (succeeds : PostgresControlPlaneRepository.saveConfigVersion columns database x =
      .ok after) :
    SameContents columns (memory.saveConfigVersion x) after := by
  obtain ⟨row, isAccepted, finishes⟩ := bind_eq_ok.mp succeeds
  have isRow := accepted_eq_ok.mp isAccepted
  obtain ⟨isVersion, -⟩ := configurationRow_eq_some isRow
  have saved := cfg_saved saves isRow
  dsimp only at finishes
  split at finishes
  · cases finishes
    refine
      { capabilities := same.capabilities
        dependencies := same.dependencies
        changes := same.changes
        configs := ?_
        health := same.health }
    intro view
    have others : view ∈ ((memory.configs.filter fun y =>
          !(decide (y.environment = x.environment) &&
            strictEquals y.version x.version)).map ConfigurationVersion.sorted) ↔
        view ∈ ((database.configs.rows.filter fun r =>
          !(decide (r.environment = x.environment) &&
            strictEquals (some (columns.number r.version)) x.version)).map fun r =>
              (PostgresControlPlaneRepository.cfg columns r).sorted) :=
      same.configs.filter_map
        (fun y =>
          !(decide (y.environment = x.environment) && strictEquals y.version x.version))
        (fun _ => rfl) (fun _ => rfl) view
    change view ∈ (memory.configs.filter _ ++ [x]).map _ ↔
      view ∈ (database.configs.upsert
        PostgresControlPlaneRepository.updatedConfiguration row
        (PostgresControlPlaneRepository.updatedConfiguration_version row)).rows.map _
    rw [List.map_append, List.mem_append, others, List.map_singleton, List.mem_singleton,
      List.mem_map, List.mem_map]
    constructor
    · rintro (⟨stored, selected, rfl⟩ | rfl)
      · obtain ⟨member, other⟩ := List.mem_filter.mp selected
        have different := (kept_iff saves isVersion member).mpr other
        exact ⟨stored, (KeyedTable.mem_upsert _).mpr (Or.inl ⟨member, different⟩), rfl⟩
      · exact ⟨_, (KeyedTable.mem_upsert _).mpr (Or.inr rfl), saved⟩
    · rintro ⟨stored, member, rfl⟩
      rcases (KeyedTable.mem_upsert _).mp member with ⟨old, different⟩ | rfl
      · have other := (kept_iff saves isVersion old).mp different
        exact Or.inl ⟨stored, List.mem_filter.mpr ⟨old, other⟩, rfl⟩
      · exact Or.inr saved
  · cases finishes

theorem sameContents_activateConfigVersion (same : SameContents columns memory database)
    {environment : String} {version : Numeric}
    (agreeable : Agreeable columns ⟨memory, database⟩
      (.activateConfigVersion environment version))
    (succeeds : PostgresControlPlaneRepository.activateInTransaction columns database
      environment version = .ok after) :
    SameContents columns (memory.activateConfigVersion environment version).2 after := by
  obtain ⟨number, isAccepted, finishes⟩ := bind_eq_ok.mp (of_acceptedText succeeds)
  have isVersion := accepted_eq_ok.mp isAccepted
  split at finishes
  · cases finishes
    refine
      { capabilities := same.capabilities
        dependencies := same.dependencies
        changes := same.changes
        configs := ?_
        health := same.health }
    apply same.configs.map_map
      (InMemoryControlPlaneRepository.withActive environment version)
    · intro x _
      unfold InMemoryControlPlaneRepository.withActive ConfigurationVersion.sorted
      split
      · rfl
      · rfl
    · intro stored member
      by_cases ofEnvironment : stored.environment = environment
      · have flag : decide (stored.version = number) =
            strictEquals (some (columns.number stored.version)) version := by
          rw [Bool.eq_iff_iff, decide_eq_true_iff, strictEquals_iff]
          constructor
          · rintro rfl
            exact ⟨number_of_bound isVersion, by simp⟩
          · rintro ⟨reads, -⟩
            have bound := agreeable stored member ofEnvironment reads
            rw [isVersion, Option.some.injEq] at bound
            exact bound.symm
        have readEnvironment :
            (PostgresControlPlaneRepository.cfg columns stored).sorted.environment =
              environment :=
          ofEnvironment
        rw [activeRow, if_pos ofEnvironment, flag,
          InMemoryControlPlaneRepository.withActive_of_environment readEnvironment]
        rfl
      · have readElsewhere :
            (PostgresControlPlaneRepository.cfg columns stored).sorted.environment ≠
              environment :=
          ofEnvironment
        rw [activeRow, if_neg ofEnvironment,
          InMemoryControlPlaneRepository.withActive_elsewhere readElsewhere]
  · cases finishes

theorem sameContents_appendAudit (same : SameContents columns memory database)
    {event : JsObject}
    (succeeds : PostgresControlPlaneRepository.appendAudit columns database event =
      .ok after) :
    SameContents columns (memory.appendAudit event) after := by
  obtain ⟨row, -, finishes⟩ := bind_eq_ok.mp succeeds
  cases finishes
  exact
    { capabilities := same.capabilities
      dependencies := same.dependencies
      changes := same.changes
      configs := same.configs
      health := same.health }

end Writes

/-! ## Runs -/

section Runs

variable {columns : PostgresColumns} {pair : AdapterPair} {operation : RepositoryOperation}

/-- The step lemma for answers. -/
theorem sameAnswer_of_agreeable (same : SameContents columns pair.memory pair.database)
    (succeeds : Succeeds columns pair operation)
    (agreeable : Agreeable columns pair operation) :
    SameAnswer columns pair operation := by
  obtain ⟨left, right, answers⟩ := succeeds
  refine ⟨left, right, answers, ?_⟩
  obtain ⟨inMemory, inDatabase⟩ := Prod.mk.inj answers
  cases operation with
  | listCapabilities environment =>
      cases inMemory
      exact sameReply_listCapabilities same inDatabase
  | getCapability environment id =>
      cases inMemory
      exact sameReply_getCapability same agreeable inDatabase
  | listDependencies environment =>
      cases inMemory
      exact sameReply_listDependencies same agreeable inDatabase
  | listConfigVersions environment =>
      cases inMemory
      exact sameReply_listConfigVersions same inDatabase
  | getChange id =>
      cases inMemory
      exact sameReply_getChange same agreeable inDatabase
  | saveChange change => trivial
  | saveConfigVersion version => trivial
  | activateConfigVersion environment version => trivial
  | providerHealth environment =>
      cases inMemory
      exact sameReply_providerHealth same inDatabase
  | appendAudit event => trivial

/-- The step lemma for contents. -/
theorem sameContents_performBoth (same : SameContents columns pair.memory pair.database)
    (succeeds : Succeeds columns pair operation)
    (agreeable : Agreeable columns pair operation) :
    SameContents columns (performBoth columns pair operation).memory
      (performBoth columns pair operation).database := by
  obtain ⟨left, right, answers⟩ := succeeds
  have inDatabase := (Prod.mk.inj answers).2
  cases operation with
  | listCapabilities environment => exact same
  | getCapability environment id => exact same
  | listDependencies environment => exact same
  | listConfigVersions environment => exact same
  | getChange id => exact same
  | saveChange change =>
      obtain ⟨record, saves⟩ := agreeable
      exact
        sameContents_saveChange same saves
          (PostgresControlPlaneRepository.writes_eq_ok inDatabase)
  | saveConfigVersion version =>
      exact
        sameContents_saveConfigVersion same agreeable
          (PostgresControlPlaneRepository.writes_eq_ok inDatabase)
  | activateConfigVersion environment version =>
      exact
        sameContents_activateConfigVersion same agreeable
          (PostgresControlPlaneRepository.writes_eq_ok inDatabase)
  | providerHealth environment => exact same
  | appendAudit event =>
      exact
        sameContents_appendAudit same
          (PostgresControlPlaneRepository.writes_eq_ok inDatabase)

end Runs

/-- Two adapters that hold the same contents answer alike in every run whose
operations succeed on both and meet the condition, and hold the same contents
after it. -/
theorem sameAnswers_of_everyStep {columns : PostgresColumns} {start : AdapterPair}
    {operations : List RepositoryOperation}
    (same : SameContents columns start.memory start.database)
    (every : EveryStep (performBoth columns)
      (fun pair operation =>
        Succeeds columns pair operation ∧ Agreeable columns pair operation)
      start operations) :
    EveryStep (performBoth columns) (SameAnswer columns) start operations ∧
      SameContents columns (run (performBoth columns) start operations).memory
        (run (performBoth columns) start operations).database := by
  have preserved : ∀ (pair : AdapterPair) (operation : RepositoryOperation),
      SameContents columns pair.memory pair.database →
        Succeeds columns pair operation ∧ Agreeable columns pair operation →
          SameContents columns (performBoth columns pair operation).memory
            (performBoth columns pair operation).database :=
    fun _ _ same meets => sameContents_performBoth same meets.1 meets.2
  constructor
  · exact
      everyStep_of_invariant preserved
        (fun _ _ same meets => sameAnswer_of_agreeable same meets.1 meets.2) same every
  · exact
      @run_invariant _ _ _ _
        (fun pair : AdapterPair => SameContents columns pair.memory pair.database)
        preserved _ _ same every

/-! ## Concrete contents -/

def emptyPair : AdapterPair where
  memory :=
    { capabilities := [], dependencies := [], changes := [], configs := [], health := [],
      audit := [] }
  database :=
    { capabilities := .empty
      dependencies := []
      changes := .empty
      configs := { toKeyedTable := .empty, oneActive := List.Pairwise.nil }
      health := []
      audit := [] }

theorem emptyPair_same :
    SameContents .verbatim emptyPair.memory emptyPair.database where
  capabilities _ := Iff.rfl
  dependencies _ := Iff.rfl
  changes _ := Option.Rel.none
  configs _ := Iff.rfl
  health _ := Iff.rfl

def firstConfiguration : ConfigurationVersion Numeric where
  version := some (.finite (1 : Int))
  environment := "production"
  configuration := .obj []
  createdBy := "operator"
  createdAt := "2026-01-01T00:00:00.000Z"
  active := false

theorem savesFirstConfiguration :
    SavesConfiguration .verbatim emptyPair.database firstConfiguration where
  configuration := ⟨.obj [], rfl, rfl⟩
  createdAt := rfl
  readsAs stored member := by cases member
  keeps stored member := by cases member

/-- A configuration is stored, activated and listed. -/
theorem activatedConfigurationListed :
    EveryStep (performBoth .verbatim) (SameAnswer .verbatim) emptyPair
      [.saveConfigVersion firstConfiguration,
        .activateConfigVersion "production" (some (.finite (1 : Int))),
        .listConfigVersions "production"] := by
  refine (sameAnswers_of_everyStep emptyPair_same ?_).1
  refine
    ⟨⟨⟨(), (), rfl⟩, savesFirstConfiguration⟩, ⟨⟨(), (), rfl⟩, ?_⟩, ⟨⟨_, _, rfl⟩, trivial⟩,
      trivial⟩
  intro stored member _ _
  cases List.mem_singleton.mp member
  rfl

/-- A capability, with its number as it is read and as it is stored. -/
def sampleCapability {Version : Type} (capabilityId name environment : String)
    (version : Version) : PlatformCapability Version where
  capabilityId
  name
  type := "service"
  criticality := .optional
  enabled := true
  desiredState := .obj []
  actualState := .obj []
  provider := none
  fallbackProvider := none
  health := "HEALTHY"
  environment
  version

def searchId : String :=
  "00000000-0000-4000-8000-000000000001"

def storageId : String :=
  "00000000-0000-4000-8000-000000000002"

def stagingDependency : CapabilityDependency where
  capabilityId := searchId
  dependsOn := storageId
  dependencyType := "runtime"
  required := true
  fallbackCapability := none

/-- Two capabilities of staging, one of which depends on the other. -/
def dependentPair : AdapterPair where
  memory :=
    { emptyPair.memory with
      capabilities :=
        [sampleCapability searchId "search" "staging" (some (.finite (1 : Int))),
          sampleCapability storageId "storage" "staging" (some (.finite (1 : Int)))]
      dependencies := [stagingDependency] }
  database :=
    { emptyPair.database with
      capabilities :=
        { rows :=
            [sampleCapability searchId "search" "staging" 1,
              sampleCapability storageId "storage" "staging" 1]
          distinct := by decide }
      dependencies := [stagingDependency] }

/-- Production has no dependency, and the memory adapter lists the one of
staging. -/
theorem stagingDependencyListed :
    SameContents .verbatim dependentPair.memory dependentPair.database ∧
      Succeeds .verbatim dependentPair (.listDependencies "production") ∧
        ¬ SameAnswer .verbatim dependentPair (.listDependencies "production") := by
  refine ⟨{ emptyPair_same with
      capabilities := fun _ => Iff.rfl
      dependencies := fun _ => Iff.rfl }, ⟨_, _, rfl⟩, ?_⟩
  rintro ⟨left, right, answers, same⟩
  obtain ⟨inMemory, inDatabase⟩ := Prod.mk.inj answers
  cases inMemory
  cases inDatabase
  have listed : stagingDependency ∈ ([] : List CapabilityDependency) :=
    (same stagingDependency).mp List.mem_cons_self
  cases listed

end PlatformArchitecture.Section19.Adapters
