import PlatformArchitecture.Section19.Adapters

/-!
# What the two adapters hold

Two adapters hold the same contents when everything that can be read from them
is the same: the records as sets and the changes under their ids, with stored
documents compared as values, whatever the order of their properties.
-/

namespace PlatformArchitecture.Section19.Adapters

open PlatformArchitecture.Foundations

/-! ## Records up to the order of properties -/

def PlatformCapability.sorted {Version : Type} (x : PlatformCapability Version) :
    PlatformCapability Version :=
  { x with desiredState := x.desiredState.sorted, actualState := x.actualState.sorted }

def ConfigurationVersion.sorted {Version : Type} (x : ConfigurationVersion Version) :
    ConfigurationVersion Version :=
  { x with configuration := x.configuration.sorted }

def ProviderHealth.sorted {Latency : Type} (x : ProviderHealth Latency) :
    ProviderHealth Latency :=
  { x with details := x.details.sorted }

/-- The documents of a change, ordered by name. -/
def sortedChange (change : PlatformChange) : PlatformChange :=
  { change with
    oldState := change.oldState.sorted
    desiredState := change.desiredState.sorted
    impact := change.impact.map Json.sorted }

/-- Two objects have the same properties. -/
def SameObject (left right : JsObject) : Prop :=
  ∀ key, (left.lookup key).map Json.sorted = (right.lookup key).map Json.sorted

/-- An object has the properties of a change and no other. -/
def IsObjectOf (x : JsObject) (change : PlatformChange) : Prop :=
  ∀ key, x.lookup key = change.toObject.lookup key

/-- The properties of a change in a table. -/
def changeFields (change : PlatformChange) : List (String × Option Json) :=
  [("changeId", some (.str change.changeId)),
    ("environment", some (.str change.environment)),
    ("requestedBy", some (.str change.requestedBy)),
    ("requestedAt", some (.str change.requestedAt)),
    ("capability", some (.str change.capability)),
    ("oldState", some change.oldState),
    ("desiredState", some change.desiredState),
    ("riskLevel", some (.str change.riskLevel.text)),
    ("status", some (.str change.status)),
    ("impact", change.impact),
    ("approvedBy", change.approvedBy.map .str),
    ("startedAt", change.startedAt.map .str),
    ("completedAt", change.completedAt.map .str),
    ("rollbackChangeId", change.rollbackChangeId.map .str)]

theorem lookup_toObject (change : PlatformChange) (key : String) :
    change.toObject.lookup key = ((changeFields change).lookup key).join :=
  lookup_defined (by simp) key

theorem lookup_map_sorted (fields : List (String × Option Json)) (key : String) :
    (fields.map fun field => (field.1, field.2.map Json.sorted)).lookup key =
      (fields.lookup key).map fun value => value.map Json.sorted := by
  induction fields with
  | nil => rfl
  | cons field rest inductionHypothesis =>
      obtain ⟨name, value⟩ := field
      cases same : key == name with
      | true => simp [List.lookup_cons, same]
      | false => simp [List.lookup_cons, same, inductionHypothesis]

theorem changeFields_sorted (change : PlatformChange) :
    changeFields (sortedChange change) =
      (changeFields change).map fun field => (field.1, field.2.map Json.sorted) := by
  have strings : ∀ text : Option String,
      (text.map Json.str).map Json.sorted = text.map Json.str := by
    intro text
    cases text with
    | none => rfl
    | some value => rfl
  simp [changeFields, sortedChange, strings]

/-- Ordering the documents of a change orders the properties of its object. -/
theorem lookup_sortedChange (change : PlatformChange) (key : String) :
    (change.toObject.lookup key).map Json.sorted =
      (sortedChange change).toObject.lookup key := by
  rw [lookup_toObject, lookup_toObject, changeFields_sorted, lookup_map_sorted]
  cases (changeFields change).lookup key with
  | none => rfl
  | some value => rfl

theorem sameObject_of_sortedChange {x : JsObject} {change other : PlatformChange}
    (isObject : IsObjectOf x change) (same : sortedChange change = sortedChange other) :
    SameObject x other.toObject := by
  intro key
  rw [isObject key, lookup_sortedChange, lookup_sortedChange, same]

/-! ## Changes that are read back -/

/-- A document that a `jsonb` column gives back. -/
def HeldDocument (columns : PostgresColumns) (document : Json) : Prop :=
  ∃ stored, columns.jsonb document = some stored ∧ (orEmpty stored).sorted = document.sorted

/-- A document that a nullable `jsonb` column gives back. -/
def HeldOptional (columns : PostgresColumns) (document : Json) : Prop :=
  ∃ stored, columns.jsonb document = some stored ∧ stored ≠ .null ∧
    stored.sorted = document.sorted

/-- The ids, times and documents of a change that the columns give back as they
are. -/
structure HeldChange (columns : PostgresColumns) (change : PlatformChange) : Prop where
  changeId : columns.uuid change.changeId = some change.changeId
  requestedAt : columns.timestamp change.requestedAt = some change.requestedAt
  oldState : HeldDocument columns change.oldState
  desiredState : HeldDocument columns change.desiredState
  impact : ∀ document ∈ change.impact, HeldOptional columns document
  startedAt : ∀ time ∈ change.startedAt, columns.timestamp time = some time
  completedAt : ∀ time ∈ change.completedAt, columns.timestamp time = some time
  rollbackChangeId : ∀ id ∈ change.rollbackChangeId, columns.uuid id = some id

theorem orEmpty_eq (document : Json) :
    (if document = .null then .obj [] else document) = orEmpty document := by
  cases document <;> rfl

theorem ofText?_riskLevel (level : RiskLevel) : RiskLevel.ofText? level.text = some level := by
  cases level <;> decide

section Reads

variable {columns : PostgresColumns} {x : JsObject} {change row : PlatformChange}

theorem bound_of_isObject (isObject : IsObjectOf x change) {key : String}
    {value : Option Json} (field : (changeFields change).lookup key = some value)
    (notNull : value ≠ some .null) : bound key x = value := by
  apply bound_defined _ notNull
  rw [isObject key, lookup_toObject, field]
  rfl

theorem bound_string (isObject : IsObjectOf x change) {read : Json → Option String}
    {key value stored : String}
    (field : (changeFields change).lookup key = some (some (.str value)))
    (accepted : (bound key x).bind read = some stored) : read (.str value) = some stored := by
  rw [bound_of_isObject isObject field (by simp)] at accepted
  exact accepted

theorem bound_text (isObject : IsObjectOf x change) {key value stored : String}
    (field : (changeFields change).lookup key = some (some (.str value)))
    (accepted : (bound key x).bind columns.textColumn = some stored) : stored = value :=
  columns.textColumn_str (bound_string isObject field accepted)

/-- A document that is bound is not `null`, for `null` is refused. -/
theorem bound_document (isObject : IsObjectOf x change) {key : String} {document stored : Json}
    (field : (changeFields change).lookup key = some (some document))
    (accepted : (bound key x).bind columns.jsonb = some stored) :
    columns.jsonb document = some stored := by
  by_cases isNull : document = .null
  · have absent : bound key x = none := by
      unfold bound
      rw [isObject key, lookup_toObject, field, isNull]
      rfl
    rw [absent] at accepted
    cases accepted
  · rw [bound_of_isObject isObject field (by simpa using isNull)] at accepted
    exact accepted

theorem document_held {document stored : Json} (held : HeldDocument columns document)
    (accepted : columns.jsonb document = some stored) :
    (orEmpty stored).sorted = document.sorted := by
  obtain ⟨value, isValue, same⟩ := held
  rw [isValue] at accepted
  cases accepted
  exact same

/-- A nullable column of texts that it gives back. -/
theorem nullable_string (isObject : IsObjectOf x change) {read : Json → Option String}
    {key : String} {value stored : Option String}
    (field : (changeFields change).lookup key = some (value.map .str))
    (held : ∀ text ∈ value, ∀ stored, read (.str text) = some stored → stored = text)
    (accepted : nullable read (bound key x) = some stored) : stored = value := by
  have notNull : value.map Json.str ≠ some .null := by
    cases value with
    | none => simp
    | some text => simp
  rw [bound_of_isObject isObject field notNull] at accepted
  cases value with
  | none => exact (Option.some.inj accepted).symm
  | some text =>
      obtain ⟨read, isRead, rfl⟩ := Option.map_eq_some_iff.mp accepted
      exact congrArg some (held text rfl read isRead)

/-- A nullable column of documents that it gives back. -/
theorem nullable_document (isObject : IsObjectOf x change) {key : String}
    {value stored : Option Json}
    (field : (changeFields change).lookup key = some value)
    (held : ∀ document ∈ value, HeldOptional columns document)
    (accepted : nullable columns.jsonb (bound key x) = some stored) :
    (stored.filter (· ≠ .null)).map Json.sorted = value.map Json.sorted := by
  have notNull : value ≠ some .null := by
    intro isNull
    obtain ⟨given, -, present, same⟩ := held .null isNull
    cases given <;> first | exact present rfl | cases same
  rw [bound_of_isObject isObject field notNull] at accepted
  cases value with
  | none =>
      cases accepted
      rfl
  | some document =>
      obtain ⟨read, isRead, rfl⟩ := Option.map_eq_some_iff.mp accepted
      obtain ⟨given, isGiven, present, same⟩ := held document rfl
      rw [isGiven] at isRead
      cases isRead
      simp [Option.filter, present, same]

/-- A row that is read as the change. -/
structure GivesBack (change row : PlatformChange) : Prop where
  changeId : row.changeId = change.changeId
  environment : row.environment = change.environment
  requestedBy : row.requestedBy = change.requestedBy
  requestedAt : row.requestedAt = change.requestedAt
  capability : row.capability = change.capability
  oldState : (orEmpty row.oldState).sorted = change.oldState.sorted
  desiredState : (orEmpty row.desiredState).sorted = change.desiredState.sorted
  riskLevel : row.riskLevel = change.riskLevel
  status : row.status = change.status
  impact : (row.impact.filter (· ≠ .null)).map Json.sorted = change.impact.map Json.sorted
  approvedBy : row.approvedBy = change.approvedBy
  startedAt : row.startedAt = change.startedAt
  completedAt : row.completedAt = change.completedAt
  rollbackChangeId : row.rollbackChangeId = change.rollbackChangeId

theorem GivesBack.sortedChange_eq (givesBack : GivesBack change row) :
    sortedChange change = sortedChange row.ch := by
  obtain ⟨_, _, _, _, _, oldState, desiredState, _, _, impact, _, _, _, _⟩ := givesBack
  cases change
  cases row
  simp_all [sortedChange, PlatformChange.ch, orEmpty_eq]

/-- The row that a change is inserted as gives it back when its values are
held. -/
theorem givesBack_of_held (held : HeldChange columns change) (isObject : IsObjectOf x change)
    (accepted : PlatformChange.ofParameters columns.toChangeColumns x = some row) :
    GivesBack change row := by
  have reads := PlatformChange.reads_of_ofParameters accepted
  have rest := PlatformChange.readsRest_of_ofParameters accepted
  have uuid : ∀ text, columns.uuid text = some text → ∀ stored,
      columns.uuidColumn (.str text) = some stored → stored = text := by
    intro text isUuid stored isStored
    unfold ChangeColumns.uuidColumn at isStored
    rw [columns.written_str, isUuid] at isStored
    exact (Option.some.inj isStored).symm
  have time : ∀ text, columns.timestamp text = some text → ∀ stored,
      columns.timestampColumn (.str text) = some stored → stored = text := by
    intro text isTime stored isStored
    unfold ChangeColumns.timestampColumn at isStored
    rw [columns.written_str, isTime] at isStored
    exact (Option.some.inj isStored).symm
  refine
    { changeId := uuid _ held.changeId _ (bound_string isObject rfl reads.changeId)
      environment := bound_text isObject rfl reads.environment
      requestedBy := bound_text isObject rfl reads.requestedBy
      requestedAt := time _ held.requestedAt _ (bound_string isObject rfl rest.requestedAt)
      capability := bound_text isObject rfl reads.capability
      oldState :=
        document_held held.oldState (bound_document isObject rfl rest.oldState)
      desiredState :=
        document_held held.desiredState (bound_document isObject rfl rest.desiredState)
      riskLevel := ?_
      status := bound_text isObject rfl reads.status
      impact := ?_
      approvedBy := ?_
      startedAt := ?_
      completedAt := ?_
      rollbackChangeId := ?_ }
  · obtain ⟨text, isText, isLevel⟩ := Option.bind_eq_some_iff.mp rest.riskLevel
    rw [bound_text isObject rfl isText, ofText?_riskLevel] at isLevel
    exact (Option.some.inj isLevel).symm
  · exact nullable_document isObject rfl held.impact rest.impact
  · exact nullable_string isObject rfl (fun _ _ _ => columns.textColumn_str) reads.approvedBy
  · exact
      nullable_string isObject rfl (fun text isSome => time text (held.startedAt text isSome))
        rest.startedAt
  · exact
      nullable_string isObject rfl
        (fun text isSome => time text (held.completedAt text isSome)) rest.completedAt
  · exact
      nullable_string isObject rfl
        (fun id isSome => uuid id (held.rollbackChangeId id isSome)) rest.rollbackChangeId

/-- The columns that a second save of a change leaves alone. -/
structure KeepsColumns (change stored : PlatformChange) : Prop where
  environment : stored.environment = change.environment
  requestedBy : stored.requestedBy = change.requestedBy
  requestedAt : stored.requestedAt = change.requestedAt
  capability : stored.capability = change.capability
  oldState : (orEmpty stored.oldState).sorted = change.oldState.sorted
  riskLevel : stored.riskLevel = change.riskLevel

theorem GivesBack.updatedTo {stored : PlatformChange} (givesBack : GivesBack change row)
    (sameKey : stored.changeId = row.changeId) (keeps : KeepsColumns change stored) :
    GivesBack change (stored.updatedTo row) :=
  { givesBack with
    changeId := sameKey.trans givesBack.changeId
    environment := keeps.environment
    requestedBy := keeps.requestedBy
    requestedAt := keeps.requestedAt
    capability := keeps.capability
    oldState := keeps.oldState
    riskLevel := keeps.riskLevel }

end Reads

/-! ## Same contents -/

/-- Everything that can be read from the adapters is the same. -/
structure SameContents (columns : PostgresColumns) (memory : InMemoryControlPlaneRepository)
    (database : ControlPlaneDatabase) : Prop where
  capabilities : SameValues (memory.capabilities.map PlatformCapability.sorted)
    (database.capabilities.rows.map fun r =>
      (PostgresControlPlaneRepository.c columns r).sorted)
  dependencies : SameValues memory.dependencies
    (database.dependencies.map PostgresControlPlaneRepository.d)
  changes : ∀ id, Option.Rel SameObject (memory.getChange id)
    ((database.changes.find id).map fun r => r.ch.toObject)
  configs : SameValues (memory.configs.map ConfigurationVersion.sorted)
    (database.configs.rows.map fun r =>
      (PostgresControlPlaneRepository.cfg columns r).sorted)
  health : SameValues (memory.health.map ProviderHealth.sorted)
    (database.health.map fun r => (PostgresControlPlaneRepository.ph r).sorted)

/-- The answers to an operation are the same, lists compared as sets. -/
def RepositoryOperation.SameReply :
    (operation : RepositoryOperation) → operation.Reply → operation.Reply → Prop
  | .listCapabilities _, left, right =>
      SameValues (left.map PlatformCapability.sorted) (right.map PlatformCapability.sorted)
  | .getCapability _ _, left, right =>
      left.map PlatformCapability.sorted = right.map PlatformCapability.sorted
  | .listDependencies _, left, right => SameValues left right
  | .listConfigVersions _, left, right =>
      SameValues (left.map ConfigurationVersion.sorted)
        (right.map ConfigurationVersion.sorted)
  | .getChange _, left, right => Option.Rel SameObject left right
  | .saveChange _, _, _ => True
  | .saveConfigVersion _, _, _ => True
  | .activateConfigVersion _ _, _, _ => True
  | .providerHealth _, left, right =>
      SameValues (left.map ProviderHealth.sorted) (right.map ProviderHealth.sorted)
  | .appendAudit _, _, _ => True

end PlatformArchitecture.Section19.Adapters
