import PlatformArchitecture.Foundations.Run
import PlatformArchitecture.Section19.Routes

/-!
# What one Section 19 request can do

What is said about runs of the `/platform` routes comes down to one statement:
a request leaves the state as it is, saves one object that its own checks let
through, or activates a configuration version.  For a transition the saved
object is the stored change with a new status.
-/

namespace PlatformArchitecture.Section19

open PlatformArchitecture.ConfigEngine
open PlatformArchitecture.ControlApi
open PlatformArchitecture.Foundations
open PlatformArchitecture.PolicyEngine

/-! ## What is saved -/

/-- The checks of a route in front of `transition`, on the change it names. -/
def routeAllows (environment : String) (context : PlatformContext)
    (change : PlatformChange) : PlatformRequest → Prop
  | .validate _ body => checkDesiredState environment body = .ok ()
  | .approve _ => (approvalPolicy environment context change).allowed
  | _ => True

/-- The transition of a stored change that every check lets through. -/
structure Transitions (columns : ChangeColumns) (environment : String)
    (context : PlatformContext) (request : PlatformRequest) (state : PlatformState)
    (stored : PlatformChange) (next : ChangeState) : Prop where
  asked : ∃ id, request.transition = some (id, next) ∧
    ∃ changeId, columns.uuid id = some changeId ∧ state.change changeId = some stored
  route : routeAllows environment context stored.ch request
  checked : checkTransition context.operator.userId stored.ch next = .ok ()

/-- The object that a request saves. -/
inductive Saves (columns : ChangeColumns) (environment : String)
    (context : PlatformContext) (state : PlatformState) :
    PlatformRequest → JsObject → Prop
  | created {body : Option Json}
      (unlocked :
        (createInput environment context body).lookup "riskLevel" ≠ some (.str "LOCKED")) :
      Saves columns environment context state (.create body)
        (ControlPlaneService.newChange context (createInput environment context body))
  | moved {request : PlatformRequest} {stored : PlatformChange} {next : ChangeState}
      (transitions : Transitions columns environment context request state stored next) :
      Saves columns environment context state request
        (updatedChange context.now context.operator.userId stored.ch next).toObject

/-- What a request can do to the state. -/
inductive PlatformEffect (columns : ChangeColumns) (environment : String)
    (context : PlatformContext) (request : PlatformRequest) (state after : PlatformState) :
    Prop
  | unchanged (same : after = state)
  | saved (x : JsObject) (row : PlatformChange)
      (saves : Saves columns environment context state request x)
      (accepted : state.insertable columns x = some row)
      (changes : after.changes =
        upsertRow PlatformChange.changeId PlatformChange.updatedTo row state.changes)
  | activated (version : Option JsNumber) (number : Int) (config : ConfigurationVersion)
      (asked : request = .activateConfig version)
      (isNumber : version.bind columns.integer = some number)
      (stored : config ∈ state.configs)
      (ofEnvironment : config.environment = environment)
      (sameVersion : config.version = number)
      (changes : after.changes = state.changes)

section Handlers

variable {columns : ChangeColumns} {environment : String} {context : PlatformContext}
  {request : PlatformRequest} {state : PlatformState}

/-- The audit event after a write leaves the changes alone. -/
theorem audit_changes {timestamp action : String}
    {actor resource auditEnvironment correlationId oldValue newValue : Option Json}
    {changes : List PlatformChange} {state : PlatformState}
    (same : state.changes = changes) :
    (ControlPlaneService.audit timestamp actor action resource auditEnvironment
        correlationId oldValue newValue).Ensures (platformDatabase columns)
      (fun _ after => after.changes = changes) state := by
  apply Program.ensures_call
  · exact fun _ => same
  · intro reply after executed
    have unchanged : after.changes = state.changes := executePlatform_insertAudit executed
    exact ⟨unchanged.trans same, unchanged.trans same⟩

/-- Saving an object that a request may save, and then recording it. -/
theorem save_effect {Result : Type} {x : JsObject} {rest : PlatformProgram Result}
    (saves : Saves columns environment context state request x)
    (recorded : ∀ after changes, after.changes = changes →
      rest.Ensures (platformDatabase columns) (fun _ last => last.changes = changes) after) :
    (PostgresControlPlaneRepository.saveChange x >>= fun _ => rest).Ensures
      (platformDatabase columns)
      (fun _ after => PlatformEffect columns environment context request state after)
      state := by
  apply Program.ensures_bind
  apply Program.ensures_call
  · exact fun _ => .unchanged rfl
  · intro reply after executed
    obtain ⟨row, accepted, rfl⟩ := executePlatform_upsertChange executed
    refine ⟨?_, .saved x row saves accepted rfl⟩
    apply Program.Ensures.mono _ (recorded _ _ rfl)
    exact fun _ last same => .saved x row saves accepted same

/-- Reading the change that a transition names. -/
theorem requireChange_effect {Result : Type} {id : String}
    {rest : PlatformChange → PlatformProgram Result}
    (found : ∀ changeId stored, columns.uuid id = some changeId →
      state.change changeId = some stored →
        (rest stored.ch).Ensures (platformDatabase columns)
          (fun _ after => PlatformEffect columns environment context request state after)
          state) :
    (ControlPlaneService.requireChange id >>= rest).Ensures (platformDatabase columns)
      (fun _ after => PlatformEffect columns environment context request state after)
      state := by
  apply Program.ensures_bind
  apply Program.ensures_bind
  apply Program.ensures_bind
  apply Program.ensures_call_read
  · intro reply after executed
    exact (executePlatform_selectChange executed).choose_spec.2.1
  · exact fun _ => .unchanged rfl
  · intro reply executed
    obtain ⟨changeId, isUuid, -, rfl⟩ := executePlatform_selectChange executed
    cases stored : state.change changeId with
    | none => exact .unchanged rfl
    | some stored' => exact found changeId stored' isUuid stored

theorem transition_effect {id : String} {next : ChangeState}
    (asked : request.transition = some (id, next))
    (allowed : ∀ changeId stored, columns.uuid id = some changeId →
      state.change changeId = some stored →
        routeAllows environment context stored.ch request) :
    (ControlPlaneService.transition context id next).Ensures (platformDatabase columns)
      (fun _ after => PlatformEffect columns environment context request state after)
      state := by
  apply requireChange_effect
  intro changeId stored isUuid isStored
  refine Program.ensures_check_bind (fun _ _ => .unchanged rfl) fun _ checked => ?_
  have transitions : Transitions columns environment context request state stored next :=
    { asked := ⟨id, asked, changeId, isUuid, isStored⟩
      route := allowed changeId stored isUuid isStored
      checked }
  apply save_effect (.moved transitions)
  intro after changes same
  exact Program.ensures_bind_done (audit_changes same)

theorem move_effect {id : String} {next : ChangeState}
    (asked : request.transition = some (id, next))
    (allowed : ∀ changeId stored, columns.uuid id = some changeId →
      state.change changeId = some stored →
        routeAllows environment context stored.ch request) :
    (move context id next).Ensures (platformDatabase columns)
      (fun _ after => PlatformEffect columns environment context request state after)
      state :=
  Program.ensures_bind_done (transition_effect asked allowed)

/-- The effect of a request, whatever becomes of its statements. -/
theorem handlePlatform_effect (columns : ChangeColumns) (environment : String)
    (context : PlatformContext) (request : PlatformRequest) (state : PlatformState) :
    (handlePlatform environment context request).Ensures (platformDatabase columns)
      (fun _ after => PlatformEffect columns environment context request state after)
      state := by
  cases request with
  | create body =>
      apply Program.ensures_bind_done
      refine Program.ensures_check_bind (fun _ _ => .unchanged rfl) fun _ unlocked => ?_
      apply save_effect (.created (throwIf_eq_ok.mp unlocked))
      intro after changes same
      exact Program.ensures_bind_done (audit_changes same)
  | validate id body =>
      refine Program.ensures_check_bind (fun _ _ => .unchanged rfl) fun _ valid => ?_
      exact move_effect rfl fun _ _ _ _ => valid
  | plan id => exact move_effect rfl fun _ _ _ _ => trivial
  | approve id =>
      apply requireChange_effect
      intro changeId stored isUuid isStored
      refine Program.ensures_check_bind (fun _ _ => .unchanged rfl) fun _ policy => ?_
      apply move_effect rfl
      intro other again sameUuid sameStored
      rw [isUuid] at sameUuid
      cases sameUuid
      rw [isStored] at sameStored
      cases sameStored
      have allowed : (approvalPolicy environment context stored.ch).allowed = true := by
        simpa using policy
      exact allowed
  | apply id => exact move_effect rfl fun _ _ _ _ => trivial
  | rollback id => exact move_effect rfl fun _ _ _ _ => trivial
  | activateConfig version =>
      apply Program.ensures_bind_done
      apply Program.ensures_bind
      apply Program.ensures_call
      · exact fun _ => .unchanged rfl
      · intro reply after executed
        obtain ⟨same, number, config, isNumber, member, ofEnvironment, sameVersion⟩ :=
          executePlatform_activateConfigVersion executed
        have effect : ∀ last, last.changes = state.changes →
            PlatformEffect columns environment context (.activateConfig version) state last :=
          fun last unchanged =>
            .activated version number config rfl isNumber member ofEnvironment sameVersion
              unchanged
        refine ⟨?_, effect after same⟩
        exact Program.Ensures.mono (fun _ last unchanged => effect last unchanged)
          (audit_changes same)
  | read => exact .unchanged rfl

end Handlers

/-! ## The row that a transition saves -/

theorem toObject_lookup (change : PlatformChange) :
    change.toObject.lookup "changeId" = some (.str change.changeId) ∧
      change.toObject.lookup "status" = some (.str change.status) ∧
      change.toObject.lookup "approvedBy" = change.approvedBy.map .str := by
  unfold PlatformChange.toObject
  refine ⟨lookup_defined_self (by simp), ?_, ?_⟩
  · iterate 8 rw [lookup_defined_other (by decide)]
    exact lookup_defined_self (by simp)
  · iterate 10 rw [lookup_defined_other (by decide)]
    exact lookup_defined_self (by simp)

section Transition

variable {columns : ChangeColumns} {environment : String} {context : PlatformContext}
  {request : PlatformRequest} {state : PlatformState} {stored row : PlatformChange}
  {next : ChangeState}

/-- What a transition saves goes to the row it has read, with the new status
and its approver. -/
theorem transition_row
    (transitions : Transitions columns environment context request state stored next)
    (accepted : state.insertable columns
      (updatedChange context.now context.operator.userId stored.ch next).toObject = some row) :
    state.change row.changeId = some stored ∧ row.status = next.text ∧
      row.approvedBy =
        if next = .approved then some context.operator.userId else stored.approvedBy := by
  have reads := PlatformChange.reads_of_ofParameters (Option.filter_eq_some_iff.mp accepted).1
  obtain ⟨hasId, hasStatus, hasApprover⟩ :=
    toObject_lookup (updatedChange context.now context.operator.userId stored.ch next)
  obtain ⟨id, -, changeId, isUuid, isStored⟩ := transitions.asked
  have key : stored.changeId = changeId := key_of_findRow isStored
  refine ⟨?_, ?_, ?_⟩
  · have written := reads.changeId
    rw [bound_defined hasId (by simp), Option.bind_some] at written
    have same : columns.uuid stored.changeId = some row.changeId := by
      unfold ChangeColumns.uuidColumn at written
      rwa [columns.written_str] at written
    rw [key, columns.uuid_canonical isUuid, Option.some.injEq] at same
    rw [← same]
    exact isStored
  · have written := reads.status
    rw [bound_defined hasStatus (by simp), Option.bind_some] at written
    exact columns.textColumn_str written
  · have written := reads.approvedBy
    rw [bound_defined hasApprover (by simp)] at written
    unfold updatedChange at written
    by_cases approves : next = .approved
    · simp only [if_pos approves, Option.map_some, nullable, Option.map_eq_some_iff] at written
      obtain ⟨approver, isText, hasRow⟩ := written
      rw [if_pos approves, ← hasRow, columns.textColumn_str isText]
    · simp only [if_neg approves] at written
      rw [if_neg approves]
      cases approver : stored.approvedBy with
      | none =>
          have absent : stored.ch.approvedBy = none := approver
          rw [absent] at written
          exact (Option.some.inj written).symm
      | some approver' =>
          have present : stored.ch.approvedBy = some approver' := approver
          rw [present] at written
          simp only [Option.map_some, nullable, Option.map_eq_some_iff] at written
          obtain ⟨text, isText, hasRow⟩ := written
          rw [← hasRow, columns.textColumn_str isText]

/-- The checks that a transition passed. -/
theorem checkTransition_ok {actor : String} {change : PlatformChange}
    (checked : checkTransition actor change next = .ok ()) :
    (∃ state : ChangeState, state.text = change.status ∧ next ∈ state.forward) ∧
      (next = .approved → change.environment = "production" →
        actor ≠ change.requestedBy) := by
  unfold checkTransition at checked
  simp only [bind_eq_ok, throwIf_eq_ok, not_not] at checked
  obtain ⟨allowed, isAllowed, _, listed, separate⟩ := checked
  constructor
  · obtain ⟨state, isState⟩ := state_of_allowedNext isAllowed listed
    rw [← isState, transitions_eq_forward] at isAllowed
    cases isAllowed
    obtain ⟨target, member, same⟩ := List.mem_map.mp listed
    cases ChangeState.text_injective same
    exact ⟨state, isState, member⟩
  · intro approves production same
    exact separate ⟨approves, production, same⟩

end Transition

/-! ## The row of a create request -/

section Created

variable {columns : ChangeColumns} {environment : String} {context : PlatformContext}
  {body : Option Json}

theorem bound_singleton (key text : String) :
    bound key [(key, .str text)] = some (.str text) := by
  simp [bound]

/-- A property of the body hides the one that is supplied. -/
theorem bound_spread (key : String) (base upper : JsObject) :
    bound key (spread base upper) =
      if upper.lookup key = none then bound key base else bound key upper := by
  unfold bound
  rw [lookup_spread]
  cases upper.lookup key with
  | none => rfl
  | some value => rfl

theorem createInput_riskLevel :
    (createInput environment context body).lookup "riskLevel" =
      (spreadable body).lookup "riskLevel" := by
  unfold createInput
  rw [lookup_spread]
  have notSupplied : List.lookup "riskLevel"
      [("environment", Json.str environment),
        ("requestedBy", Json.str context.operator.userId),
        ("correlationId", Json.str context.requestId)] = none := by
    simp [List.lookup_cons]
  rw [notSupplied, Option.or_none]

/-- The properties that the route and the service supply. -/
def supplied (environment : String) (context : PlatformContext) : JsObject :=
  [("environment", .str environment), ("requestedBy", .str context.operator.userId),
    ("correlationId", .str context.requestId), ("changeId", .str context.randomId),
    ("requestedAt", .str context.now), ("status", .str "DRAFT")]

theorem newChange_eq :
    ControlPlaneService.newChange context (createInput environment context body) =
      spread (supplied environment context) (spreadable body) := by
  unfold ControlPlaneService.newChange createInput spread supplied
  rw [List.append_assoc]
  rfl

theorem bound_supplied :
    bound "status" (supplied environment context) = some (.str "DRAFT") ∧
      bound "requestedBy" (supplied environment context) =
        some (.str context.operator.userId) ∧
      bound "changeId" (supplied environment context) = some (.str context.randomId) ∧
      bound "capability" (supplied environment context) = none ∧
      bound "approvedBy" (supplied environment context) = none ∧
      bound "environment" (supplied environment context) = some (.str environment) := by
  simp [bound, supplied, List.lookup_cons]

/-- Where the columns of a new change come from: a text that the body has is
read from the body, the others are supplied. -/
structure CreatedFrom (columns : ChangeColumns) (environment : String)
    (context : PlatformContext) (fields : JsObject) (row : PlatformChange) : Prop where
  status :
    if fields.lookup "status" = none then row.status = "DRAFT"
    else (bound "status" fields).bind columns.textColumn = some row.status
  requestedBy :
    if fields.lookup "requestedBy" = none then row.requestedBy = context.operator.userId
    else (bound "requestedBy" fields).bind columns.textColumn = some row.requestedBy
  environment :
    if fields.lookup "environment" = none then row.environment = environment
    else (bound "environment" fields).bind columns.textColumn = some row.environment
  capability : (bound "capability" fields).bind columns.textColumn = some row.capability
  approvedBy : bound "approvedBy" fields = none → row.approvedBy = none
  changeId :
    (bound "changeId" (spread [("changeId", .str context.randomId)] fields)).bind
      columns.uuidColumn = some row.changeId

/-- A text column of a new change. -/
theorem created_text {key value text : String} {fields base : JsObject}
    (hasBase : bound key base = some (.str value))
    (written : (bound key (spread base fields)).bind columns.textColumn = some text) :
    if fields.lookup key = none then text = value
    else (bound key fields).bind columns.textColumn = some text := by
  rw [bound_spread] at written
  split at written
  · next absent =>
      rw [if_pos absent]
      rw [hasBase] at written
      exact columns.textColumn_str written
  · next present =>
      rw [if_neg present]
      exact written

theorem createdFrom_of_insertable {state : PlatformState} {row : PlatformChange}
    (accepted : state.insertable columns
      (ControlPlaneService.newChange context (createInput environment context body)) =
        some row) :
    CreatedFrom columns environment context (spreadable body) row := by
  rw [newChange_eq] at accepted
  have reads := PlatformChange.reads_of_ofParameters (Option.filter_eq_some_iff.mp accepted).1
  obtain ⟨draft, requestor, generated, noCapability, noApprover, ofEnvironment⟩ :=
    @bound_supplied environment context
  constructor
  · exact created_text draft reads.status
  · exact created_text requestor reads.requestedBy
  · exact created_text ofEnvironment reads.environment
  · have written := reads.capability
    rw [bound_spread] at written
    split at written
    · rw [noCapability] at written
      cases written
    · exact written
  · intro notNamed
    have written := reads.approvedBy
    rw [bound_spread, noApprover, notNamed, ite_self] at written
    exact (Option.some.inj written).symm
  · have written := reads.changeId
    rw [bound_spread] at written ⊢
    rw [generated] at written
    exact written

end Created

/-! ## Runs -/

/-- A request with what becomes of its statements. -/
structure PlatformServed where
  context : PlatformContext
  request : PlatformRequest
  deliveries : List Delivery

abbrev PlatformServed.userId (served : PlatformServed) : String :=
  served.context.operator.userId

/-- A request by an `sre`, all of whose statements are answered. -/
def PlatformServed.answered (userId : String) (permissions : List String)
    (randomId : String) (request : PlatformRequest) : PlatformServed where
  context :=
    { operator := Operator.sre userId permissions
      requestId := "request"
      now := "2026-01-01T00:00:00.000Z"
      randomId }
  request
  deliveries := []

def servePlatform (columns : ChangeColumns) (environment : String) (state : PlatformState)
    (served : PlatformServed) : PlatformState :=
  ((handlePlatform environment served.context served.request).run
    (platformDatabase columns) served.deliveries state).2

theorem servePlatform_effect (columns : ChangeColumns) (environment : String)
    (state : PlatformState) (served : PlatformServed) :
    PlatformEffect columns environment served.context served.request state
      (servePlatform columns environment state served) :=
  (handlePlatform_effect columns environment served.context served.request state).run
    served.deliveries

/-- Where a row comes from that is stored after a request. -/
inductive RowOrigin (columns : ChangeColumns) (environment : String)
    (state : PlatformState) (context : PlatformContext) :
    PlatformRequest → PlatformChange → Prop
  | kept {request : PlatformRequest} {row : PlatformChange} (stored : row ∈ state.changes) :
      RowOrigin columns environment state context request row
  | inserted {body : Option Json} {row : PlatformChange}
      (unlocked : (spreadable body).lookup "riskLevel" ≠ some (.str "LOCKED"))
      (accepted : state.insertable columns
        (ControlPlaneService.newChange context (createInput environment context body)) =
          some row)
      (absent : state.change row.changeId = none) :
      RowOrigin columns environment state context (.create body) row
  | overwritten {body : Option Json} {stored saved : PlatformChange}
      (unlocked : (spreadable body).lookup "riskLevel" ≠ some (.str "LOCKED"))
      (accepted : state.insertable columns
        (ControlPlaneService.newChange context (createInput environment context body)) =
          some saved)
      (found : state.change saved.changeId = some stored) :
      RowOrigin columns environment state context (.create body) (stored.updatedTo saved)
  | moved {request : PlatformRequest} {stored saved : PlatformChange} {next : ChangeState}
      (transitions : Transitions columns environment context request state stored next)
      (found : state.change saved.changeId = some stored)
      (status : saved.status = next.text)
      (approvedBy : saved.approvedBy =
        if next = .approved then some context.operator.userId else stored.approvedBy) :
      RowOrigin columns environment state context request (stored.updatedTo saved)

theorem rowOrigin_of_served {columns : ChangeColumns} {environment : String}
    {state : PlatformState} {context : PlatformContext} {request : PlatformRequest}
    {deliveries : List Delivery} {row : PlatformChange}
    (member : row ∈
      (servePlatform columns environment state ⟨context, request, deliveries⟩).changes) :
    RowOrigin columns environment state context request row := by
  cases servePlatform_effect columns environment state ⟨context, request, deliveries⟩ with
  | unchanged same =>
      rw [same] at member
      exact .kept member
  | activated _ _ _ _ _ _ _ _ changes =>
      rw [changes] at member
      exact .kept member
  | saved x saved saves accepted changes =>
      rw [changes] at member
      rcases mem_upsertRow member with old | ⟨absent, rfl⟩ | ⟨stored, isStored, rfl⟩
      · exact .kept old
      · cases saves with
        | created unlocked =>
            rw [createInput_riskLevel] at unlocked
            exact .inserted unlocked accepted absent
        | moved transitions =>
            obtain ⟨found, -, -⟩ := transition_row transitions accepted
            rw [PlatformState.change, absent] at found
            cases found
      · cases saves with
        | created unlocked =>
            rw [createInput_riskLevel] at unlocked
            exact .overwritten unlocked accepted isStored
        | @moved _ read next transitions =>
            obtain ⟨found, status, approvedBy⟩ := transition_row transitions accepted
            obtain rfl : stored = read := by
              rw [PlatformState.change, isStored] at found
              exact Option.some.inj found
            exact .moved transitions isStored status approvedBy

end PlatformArchitecture.Section19
