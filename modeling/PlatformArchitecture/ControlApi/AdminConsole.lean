import PlatformArchitecture.ControlApi.ChangeLifecycle
import Mathlib.Data.List.DropRight

/-!
# The forms of the admin console

The console of the platform turns two forms into requests of the control API,
which takes bodies of any shape.  Whatever its forms are filled with, the
console only makes and moves changes of a proper shape, and it refuses no
transition that the API would take.
-/

namespace PlatformArchitecture.ControlApi

open PlatformArchitecture.Foundations
open PlatformArchitecture.PolicyEngine
open PlatformArchitecture.Postgres

namespace AdminConsole

/-- An entry of a form: `formData.get(name)`, where it has one. -/
inductive FormEntry where
  | text (value : String)
  | file

abbrev FormData := String → Option FormEntry

def trimmedText (value : String) : String :=
  String.ofList (trim value.toList)

def requiredText (formData : FormData) (name : String) : Except String String :=
  match formData name with
  | some (.text value) => do
      throwIf (trimmedText value = "") (name ++ " is required")
      return trimmedText value
  | _ => .error (name ++ " is required")

def allowedOperations : List String :=
  ["disable-capability", "stop-infrastructure", "change-provider", "compute-migration"]

def allowedTransitions : List String :=
  ["VALIDATING", "IMPACT_ANALYSIS", "WAITING_APPROVAL", "APPROVED", "PROVISIONING",
    "DEPLOYING", "VERIFYING", "STABILIZING", "COMPLETED", "FAILED", "ROLLING_BACK",
    "ROLLED_BACK"]

/-- A value that is parsed to neither `null`, a primitive nor an array. -/
def desiredObject (parse : String → Option Json) (desiredRaw : String) :
    Except String JsObject :=
  match parse desiredRaw with
  | some (.obj fields) => .ok fields
  | _ => .error "desired must be a JSON object"

/-- `createControlChange`: the body as the API parses it. -/
def createControlChange (parse : String → Option Json) (formData : FormData) :
    Except String ControlRequest := do
  let operation ← requiredText formData "operation"
  throwIf (operation ∉ allowedOperations) "Unsupported control operation"
  let capability ← requiredText formData "capability"
  let desiredRaw ← requiredText formData "desired"
  let desired ← desiredObject parse desiredRaw
  return .postChange
    (Json.obj [("operation", .str operation), ("capability", .str capability),
      ("desired", .obj desired)]).reparsed

/-- `note||undefined`, where the form has a text for it. -/
def formNote (formData : FormData) : Option String :=
  match formData "note" with
  | some (.text value) => some (trimmedText value) |>.filter (· ≠ "")
  | _ => none

def transitionBody (next : String) (note : Option String) : Json :=
  .obj (("next", .str next) :: (note.map fun note => ("note", Json.str note)).toList)

/-- `transitionControlChange`.  The path of the URL drops a dot segment, and
what is left of it is no route. -/
def transitionControlChange (formData : FormData) : Except String ControlRequest := do
  let id ← requiredText formData "id"
  let next ← requiredText formData "next"
  throwIf (next ∉ allowedTransitions) "Unsupported change transition"
  throwIf (id = "." ∨ id = "..") "NOT_FOUND"
  return .postTransition id (transitionBody next (formNote formData)).reparsed

inductive Form where
  | create (formData : FormData)
  | transition (formData : FormData)

def Form.request (parse : String → Option Json) : Form → Except String ControlRequest
  | .create formData => createControlChange parse formData
  | .transition formData => transitionControlChange formData

/-- A form that an operator submits; `none` is a submission without an
`authorization` header. -/
structure Submission where
  form : Form
  context : Option RequestContext
  deliveries : List Delivery

/-- What a submission does to the control API. -/
def submit (parse : String → Option Json) (types : ColumnTypes) (environment : String)
    (state : ControlState) (submission : Submission) : ControlState :=
  match submission.form.request parse, submission.context with
  | .ok request, some context =>
      serve types environment state ⟨context, request, submission.deliveries⟩
  | _, _ => state

/-! ## Texts of a form -/

def IsTrimmed (value : String) : Prop :=
  value ≠ "" ∧ trimmedText value = value

theorem trim_trim (chars : List Char) : trim (trim chars) = trim chars := by
  have asDrops : ∀ text, trim text = (text.dropWhile isSpace).rdropWhile isSpace := fun _ => rfl
  have keeps : (trim chars).dropWhile isSpace = trim chars := by
    rw [asDrops]
    rw [List.dropWhile_eq_self_iff]
    intro nonempty space
    have isPrefix := @List.rdropWhile_prefix _ isSpace (chars.dropWhile isSpace)
    have inside := Nat.lt_of_lt_of_le nonempty isPrefix.length_le
    have first := List.dropWhile_eq_self_iff.mp
      (List.dropWhile_idempotent isSpace chars) inside
    rw [← isPrefix.getElem nonempty] at first
    exact first space
  rw [asDrops (trim chars), keeps, asDrops chars, List.rdropWhile_idempotent]

theorem isTrimmed_trimmedText {value : String} (nonempty : trimmedText value ≠ "") :
    IsTrimmed (trimmedText value) := by
  refine ⟨nonempty, ?_⟩
  rw [trimmedText, trimmedText, String.toList_ofList, trim_trim]

theorem requiredText_ok {formData : FormData} {name value : String}
    (read : requiredText formData name = .ok value) : IsTrimmed value := by
  unfold requiredText at read
  split at read
  · next raw =>
    obtain ⟨_, passes, returned⟩ := bind_eq_ok.mp read
    cases returned
    exact isTrimmed_trimmedText (throwIf_eq_ok.mp passes)
  · cases read

theorem formNote_trimmed {formData : FormData} {note : String}
    (isNote : formNote formData = some note) : IsTrimmed note := by
  unfold formNote at isNote
  split at isNote
  · next raw =>
    obtain ⟨isText, nonempty⟩ := Option.filter_eq_some_iff.mp isNote
    cases isText
    exact isTrimmed_trimmedText (of_decide_eq_true nonempty)
  · cases isNote

/-! ## The shape of the changes -/

/-- A change as the console makes it. -/
structure ConsoleMade (change : ChangeRequest) : Prop where
  operation : ∃ operation ∈ allowedOperations, change.operation = some (.str operation)
  capability : ∃ capability, change.capability = some (.str capability) ∧ IsTrimmed capability
  desired : ∃ fields, change.desired = some (.obj fields)
  notes : ∀ entry ∈ change.audit, ∀ note, entry.note = some note →
    ∃ text, note = .str text ∧ IsTrimmed text

theorem ConsoleMade.reparsed {change : ChangeRequest} (made : ConsoleMade change) :
    ConsoleMade change.reparsed := by
  obtain ⟨⟨operation, allowed, isOperation⟩, ⟨capability, isCapability, trimmed⟩,
    ⟨fields, isDesired⟩, notes⟩ := made
  refine ⟨⟨operation, allowed, ?_⟩, ⟨capability, ?_, trimmed⟩,
    ⟨Json.reparsedFields fields, ?_⟩, ?_⟩
  · simp [ChangeRequest.reparsed, isOperation, Json.reparsed]
  · simp [ChangeRequest.reparsed, isCapability, Json.reparsed]
  · simp [ChangeRequest.reparsed, isDesired, Json.reparsed]
  · intro entry member note isNote
    obtain ⟨before, isEntry, rfl⟩ := List.mem_map.mp member
    obtain ⟨written, isWritten, rfl⟩ := Option.map_eq_some_iff.mp isNote
    obtain ⟨text, rfl, isText⟩ := notes before isEntry written isWritten
    exact ⟨text, rfl, isText⟩

/-- The change that a checked body asks for has the values of the body. -/
theorem requestedChange_values {environment : String} {context : RequestContext}
    {body : Option Json} {change : ChangeRequest}
    (accepted : requestedChange environment context body = .ok change) :
    change.operation = optionalProperty body "operation" ∧
      change.capability = optionalProperty body "capability" ∧
      change.desired = optionalProperty body "desired" ∧
      ∀ entry ∈ change.audit, entry.note = none := by
  have created : ∀ input : ChangeInput,
      ∀ entry ∈ (ChangeStateMachine.create context.randomId context.now input).audit,
        entry.note = none := by
    intro input entry member
    rw [List.mem_singleton.mp member]
  unfold requestedChange at accepted
  simp only [bind_eq_ok] at accepted
  obtain ⟨_, -, _, -, _, -, accepted⟩ := accepted
  split at accepted
  · split at accepted
    · obtain ⟨_, -, accepted⟩ := bind_eq_ok.mp accepted
      cases accepted
      exact ⟨rfl, rfl, rfl, created _⟩
    · cases accepted
  · cases accepted
    exact ⟨rfl, rfl, rfl, created _⟩

def ChangesMade (state : ControlState) : Prop :=
  ∀ row ∈ state.changes, ConsoleMade row.payload

theorem saveChange_made {change : ChangeRequest} (made : ConsoleMade change)
    (types : ColumnTypes) {state : ControlState} (stored : ChangesMade state) :
    (PostgresControlStore.saveChange change).Ensures (controlDatabase types)
      (fun _ after => ChangesMade after) state := by
  apply Program.ensures_bind
  apply Program.ensures_call
  · exact fun _ => stored
  · intro reply after executed
    have holds : ChangesMade after := by
      obtain ⟨changeId, -, rfl⟩ := executeControl_upsertChange executed
      intro row member
      rcases mem_upsertRow member with old | ⟨-, rfl⟩ | ⟨_, -, rfl⟩
      · exact stored row old
      · exact made.reparsed
      · exact made.reparsed
    have audited : LeavesAlone [.changes] (PostgresControlStore.recordAudit
        [("type", .str "change.saved"), ("changeId", .str change.id),
          ("actorId", .str change.actorId), ("state", .str change.state.text)]) :=
      recordAudit_leavesAlone (by simp) _
    refine ⟨?_, holds⟩
    apply Program.Ensures.mono _ (audited.keepsChanges (by simp) types after)
    intro _ later same row inside
    rw [same] at inside
    exact holds row inside

theorem createControlChange_ok {parse : String → Option Json} {formData : FormData}
    {request : ControlRequest} (sent : createControlChange parse formData = .ok request) :
    ∃ operation capability fields, operation ∈ allowedOperations ∧ IsTrimmed capability ∧
      request = .postChange (Json.obj [("operation", .str operation),
        ("capability", .str capability), ("desired", .obj fields)]) := by
  unfold createControlChange at sent
  simp only [bind_eq_ok, throwIf_eq_ok] at sent
  obtain ⟨operation, -, _, allowed, capability, isCapability, _, -, fields, -, returned⟩ := sent
  cases returned
  exact ⟨operation, capability, Json.reparsedFields fields, not_not.mp allowed,
    requiredText_ok isCapability, rfl⟩

theorem transitionControlChange_ok {formData : FormData} {request : ControlRequest}
    (sent : transitionControlChange formData = .ok request) :
    ∃ id next, next ∈ allowedTransitions ∧
      request = .postTransition id (transitionBody next (formNote formData)) := by
  unfold transitionControlChange at sent
  simp only [bind_eq_ok, throwIf_eq_ok] at sent
  obtain ⟨id, -, next, -, _, allowed, _, -, returned⟩ := sent
  cases returned
  refine ⟨id, next, not_not.mp allowed, ?_⟩
  cases formNote formData with
  | none => rfl
  | some note => rfl

theorem note_transitionBody (next : String) (note : Option String) :
    optionalProperty (some (transitionBody next note)) "note" = note.map Json.str := by
  cases note with
  | none => rfl
  | some note => rfl

theorem next_transitionBody (next : String) (note : Option String) :
    optionalProperty (some (transitionBody next note)) "next" = some (.str next) :=
  rfl

theorem postChange_made {environment : String} (context : RequestContext) {body : Option Json}
    {operation capability : String} {fields : JsObject} (allowed : operation ∈ allowedOperations)
    (trimmed : IsTrimmed capability)
    (isBody : body = some (.obj [("operation", .str operation), ("capability", .str capability),
      ("desired", .obj fields)]))
    (types : ColumnTypes) {state : ControlState} (stored : ChangesMade state) :
    (postChange environment context body).Ensures (controlDatabase types)
      (fun _ after => ChangesMade after) state := by
  refine Program.ensures_check_bind (fun _ _ => stored) fun _ _ => ?_
  refine Program.ensures_check_bind (fun _ _ => stored) fun change requested => ?_
  obtain ⟨isOperation, isCapability, isDesired, noNotes⟩ := requestedChange_values requested
  subst isBody
  have made : ConsoleMade change := by
    refine ⟨⟨operation, allowed, isOperation⟩, ⟨capability, isCapability, trimmed⟩,
      ⟨fields, isDesired⟩, ?_⟩
    intro entry member note isNote
    rw [noNotes entry member] at isNote
    cases isNote
  exact Program.ensures_bind_done (saveChange_made made types stored)

theorem made_decideTransition {context : RequestContext} {current moved : ChangeRequest}
    (made : ConsoleMade current) {formData : FormData} {next : String}
    (decided : decideTransition context current
      (some (transitionBody next (formNote formData))) = .ok moved) : ConsoleMade moved := by
  obtain ⟨state, -, -, -, rfl⟩ := decideTransition_ok decided
  refine ⟨made.operation, made.capability, made.desired, ?_⟩
  intro entry member note isNote
  rcases List.mem_append.mp member with before | new
  · exact made.notes entry before note isNote
  · rw [List.mem_singleton.mp new, note_transitionBody] at isNote
    obtain ⟨text, isText, rfl⟩ := Option.map_eq_some_iff.mp isNote
    exact ⟨text, rfl, formNote_trimmed isText⟩

theorem postTransition_made (context : RequestContext) (id next : String) (formData : FormData)
    (types : ColumnTypes) {state : ControlState} (stored : ChangesMade state) :
    (postTransition context id (some (transitionBody next (formNote formData)))).Ensures
      (controlDatabase types) (fun _ after => ChangesMade after) state := by
  refine Program.ensures_check_bind (fun _ _ => stored) fun _ _ => ?_
  apply Program.ensures_bind
  apply Program.ensures_call_read
  · intro reply after executed
    exact (executeControl_selectChange executed).choose_spec.2.1
  · exact fun _ => stored
  · intro reply executed
    obtain ⟨changeId, -, -, rfl⟩ := executeControl_selectChange executed
    cases found : findRow ChangeRow.changeId changeId state.changes with
    | none => exact stored
    | some row =>
        have current : ConsoleMade row.payload := stored row (mem_of_findRow found)
        refine Program.ensures_check_bind (fun _ _ => stored) fun moved decided => ?_
        exact Program.ensures_bind_done
          (saveChange_made (made_decideTransition current decided) types stored)

theorem submit_made (parse : String → Option Json) (types : ColumnTypes) (environment : String)
    {state : ControlState} (stored : ChangesMade state) (submission : Submission) :
    ChangesMade (submit parse types environment state submission) := by
  obtain ⟨form, context, deliveries⟩ := submission
  unfold submit
  dsimp only
  cases sent : form.request parse with
  | error message => exact stored
  | ok request =>
      cases context with
      | none => exact stored
      | some context =>
          cases form with
          | create formData =>
              obtain ⟨operation, capability, fields, allowed, trimmed, rfl⟩ :=
                createControlChange_ok sent
              exact (postChange_made context allowed trimmed rfl types stored).run deliveries
          | transition formData =>
              obtain ⟨id, next, -, rfl⟩ := transitionControlChange_ok sent
              exact (postTransition_made context id next formData types stored).run deliveries

/-! ## The console and the API -/

/-- Every state but the first can be asked for. -/
theorem text_mem_allowedTransitions {before after : ChangeState}
    (moves : after ∈ before.forward) : after.text ∈ allowedTransitions := by
  cases before <;> cases after <;> first | decide | exact absurd moves (by decide)

/-- The form for a state without a note. -/
def transitionForm (id : String) (state : ChangeState) : FormData :=
  fun name =>
    if name = "id" then some (.text id)
    else if name = "next" then some (.text state.text)
    else none

theorem transitionForm_sent {id : String} (trimmed : IsTrimmed id) (noDots : id ≠ "." ∧ id ≠ "..")
    {before after : ChangeState} (moves : after ∈ before.forward) :
    transitionControlChange (transitionForm id after) =
      .ok (.postTransition id (some (transitionBody after.text none))) := by
  have isId : requiredText (transitionForm id after) "id" = .ok id := by
    simp [requiredText, transitionForm, trimmed.2, throwIf_of_not trimmed.1]
  have stateTrimmed : trimmedText after.text = after.text := by
    cases after <;> decide
  have named : after.text ≠ "" := by
    cases after <;> decide
  have isNext : requiredText (transitionForm id after) "next" = .ok after.text := by
    simp [requiredText, transitionForm, stateTrimmed, throwIf_of_not named]
  have allowed := text_mem_allowedTransitions moves
  unfold transitionControlChange
  rw [isId, ok_bind, isNext, ok_bind, throwIf_of_not (not_not.mpr allowed), ok_bind,
    throwIf_of_not (not_or.mpr noDots)]
  rfl

theorem submit_governed (parse : String → Option Json) (types : ColumnTypes)
    {state : ControlState} (stored : ChangesGoverned state) (submission : Submission) :
    ChangesGoverned (submit parse types "production" state submission) := by
  unfold submit
  split
  · exact serve_governed types state _ stored
  · exact stored

/-- What the API makes of a body, it makes of the form for the same state: the
change it returns differs in the note of its last audit entry only. -/
theorem form_of_decideTransition {context : RequestContext} {change moved : ChangeRequest}
    {body : Option Json} (decided : decideTransition context change body = .ok moved)
    {id : String} (trimmed : IsTrimmed id) (noDots : id ≠ "." ∧ id ≠ "..") :
    ∃ formData sent, transitionControlChange formData = .ok (.postTransition id sent) ∧
      ∃ noted, decideTransition context change sent = .ok noted ∧
        noted = { moved with audit := noted.audit } ∧ noted.path = moved.path := by
  obtain ⟨state, moves, -, guards, rfl⟩ := decideTransition_ok decided
  refine ⟨transitionForm id state, some (transitionBody state.text none),
    transitionForm_sent trimmed noDots moves, ?_⟩
  obtain ⟨noted, accepted⟩ :=
    decideTransition_accepts (next_transitionBody state.text none) moves guards
  obtain ⟨named, -, requested, -, rfl⟩ := decideTransition_ok accepted
  have same : named = state := by
    rw [next_transitionBody] at requested
    exact Option.some.inj (requested.symm.trans (ChangeState.ofText?_text state))
  subst same
  refine ⟨_, accepted, rfl, ?_⟩
  simp only [ChangeRequest.path, List.map_append, List.map_cons, List.map_nil]

/-- From an empty store, whatever forms operators submit and in whatever order,
every stored change has one of the four operations, a capability, an object for
its desired state and no blank note, and in production it follows the approval
protocol.  A transition that the API takes from whatever body, it takes from a
form of the console. -/
theorem console_changes (parse : String → Option Json) (types : ColumnTypes)
    (environment : String) (submissions : List Submission) :
    (∀ row ∈ (run (submit parse types environment) emptyControlState submissions).changes,
      ConsoleMade row.payload ∧
        (environment = "production" → row.payload.FollowsProtocol)) ∧
    ∀ context change body moved, decideTransition context change body = .ok moved →
      ∀ id, IsTrimmed id → id ≠ "." ∧ id ≠ ".." →
        ∃ formData sent, transitionControlChange formData = .ok (.postTransition id sent) ∧
          ∃ noted, decideTransition context change sent = .ok noted ∧
            noted = { moved with audit := noted.audit } ∧ noted.path = moved.path := by
  constructor
  · intro row member
    have made : ChangesMade (run (submit parse types environment) emptyControlState submissions) :=
      @run_invariant_of_step _ _ (submit parse types environment) ChangesMade
        (fun _ submission stored => submit_made parse types environment stored submission)
        emptyControlState submissions fun _ absent => absurd absent List.not_mem_nil
    refine ⟨made row member, ?_⟩
    rintro rfl
    have governed :
        ChangesGoverned (run (submit parse types "production") emptyControlState submissions) :=
      @run_invariant_of_step _ _ (submit parse types "production") ChangesGoverned
        (fun _ submission stored => submit_governed parse types stored submission)
        emptyControlState submissions fun _ absent => absurd absent List.not_mem_nil
    exact (governed row member).followsProtocol
  · intro context change body moved decided id trimmed noDots
    exact form_of_decideTransition decided trimmed noDots

end AdminConsole

end PlatformArchitecture.ControlApi
