import PlatformArchitecture.ControlApi.Routes
import PlatformArchitecture.Foundations.Concurrent

/-!
# Concurrent emergency requests

`POST /v1/control/emergency` reads the page, changes one switch or the
maintenance mode, and writes the whole page back.  Beside the store, the shared
state keeps the page that each request has read and which requests have
written.  No switch is lost in the schedules in which a request finds, when it
writes, every switch that it does not set as it has read it.
-/

namespace PlatformArchitecture.ControlApi

open PlatformArchitecture.Foundations
open PlatformArchitecture.Postgres

/-! ## Requests -/

/-- A `POST /v1/control/emergency`. -/
structure EmergencyRequest where
  operator : Operator
  body : Option Json

namespace EmergencyRequest

variable (request : EmergencyRequest)

def program : ControlProgram ControlAnswer :=
  postEmergency request.operator request.body

/-- The kill switch that a request names. -/
def killSwitch : Option String :=
  (optionalProperty request.body "killSwitch").filter Json.truthy |>.map Json.text

def enabled : Bool :=
  truthy (optionalProperty request.body "enabled")

/-- The maintenance mode that a request sets. -/
def maintenanceMode : Option Json :=
  (optionalProperty request.body "maintenanceMode").filter (· ≠ .null)

/-- The switch can be a property, and the mode a document. -/
def Plain : Prop :=
  request.killSwitch ≠ some "__proto__" ∧
    ∀ mode ∈ request.maintenanceMode, mode.document ≠ .null

instance : Decidable request.Plain :=
  inferInstanceAs (Decidable (_ ∧ ∀ mode ∈ request.maintenanceMode, _))

end EmergencyRequest

/-- The switches of an emergency page, as a request copies them. -/
def switches (page : Json) : JsObject :=
  spreadable (page.property "killSwitches")

/-- The emergency page as `getPage` answers it. -/
def ControlState.emergencyPage (state : ControlState) : Json :=
  ((findRow PageRow.page .emergency state.pages).map PageRow.data).getD
    (.obj (initialPage .emergency))

structure EmergencyState (Pid : Type) where
  control : ControlState
  read : Pid → Option Json
  written : List Pid

abbrev EmergencyWorld (Pid : Type) :=
  World Pid (EmergencyState Pid) ControlStatement ControlStatement.Reply ApiError
    ControlAnswer

section Model

variable {Pid : Type} [DecidableEq Pid]

/-- The page a request has read first. -/
def pagesRead (pid : Pid) (statement : ControlStatement)
    (reply : Except ApiError statement.Reply) (state : EmergencyState Pid) :
    Pid → Option Json :=
  match statement, reply with
  | .selectPage .emergency, .ok _ =>
      Function.update state.read pid (some ((state.read pid).getD state.control.emergencyPage))
  | _, _ => state.read

/-- The requests that have written, after a statement that changes the pages or
leaves them. -/
def pagesWritten (types : ColumnTypes) (pid : Pid) (delivery : Delivery)
    (statement : ControlStatement) (state : EmergencyState Pid) : List Pid :=
  match statement, delivery with
  | .upsertPage .emergency _, .refused => state.written
  | .upsertPage .emergency data, _ =>
      if (data.bind types.jsonb).isSome then state.written ++ [pid] else state.written
  | _, _ => state.written

def emergencyOutcome (types : ColumnTypes) (pid : Pid) (delivery : Delivery)
    (statement : ControlStatement) (state : EmergencyState Pid) :
    Except ApiError statement.Reply × EmergencyState Pid :=
  let (reply, control) := (controlDatabase types).attempt delivery statement state.control
  (reply,
    { control
      read := pagesRead pid statement reply state
      written := pagesWritten types pid delivery statement state })

def emergencyServer (types : ColumnTypes) :
    Server Pid Delivery (EmergencyState Pid) ControlStatement ControlStatement.Reply
      ApiError where
  outcome pid delivery statement state :=
    some (emergencyOutcome types pid delivery statement state)
  disconnect _ state := state

def emergencyStart (control : ControlState) (requests : Pid → EmergencyRequest) :
    EmergencyWorld Pid :=
  World.start { control, read := fun _ => none, written := [] }
    fun pid => (requests pid).program

/-- The request that writes the page next. -/
def nextPageWriter (world : EmergencyWorld Pid) : Event Pid Delivery → Option Pid
  | .statement pid _ =>
      match world.programs pid with
      | some (.perform (.upsertPage .emergency _) _) => some pid
      | _ => none
  | _ => none

/-- The stored page differs from the one that was read in nothing that the
request leaves as it is. -/
def KeepsOthers (request : EmergencyRequest) (read stored : Json) : Prop :=
  (∀ field ∈ switches read ++ switches stored, request.killSwitch ≠ some field.1 →
      (switches stored).lookup field.1 = (switches read).lookup field.1) ∧
    (request.maintenanceMode = none →
      stored.property "maintenanceMode" = read.property "maintenanceMode")

instance (request : EmergencyRequest) (read stored : Json) :
    Decidable (KeepsOthers request read stored) :=
  inferInstanceAs (Decidable ((∀ field ∈ _, _) ∧ _))

def WritesOwnSwitch (requests : Pid → EmergencyRequest) (world : EmergencyWorld Pid)
    (event : Event Pid Delivery) : Prop :=
  ∀ pid ∈ nextPageWriter world event, ∀ read ∈ world.shared.read pid,
    KeepsOthers (requests pid) read world.shared.control.emergencyPage

instance (requests : Pid → EmergencyRequest) (world : EmergencyWorld Pid)
    (event : Event Pid Delivery) : Decidable (WritesOwnSwitch requests world event) :=
  inferInstanceAs (Decidable (∀ pid ∈ nextPageWriter world event, _))

end Model

/-- Every acknowledged request has written; every switch that was written is
there with the value of a request that named it, and so is the mode. -/
structure SwitchesKept {Pid : Type} (requests : Pid → EmergencyRequest)
    (world : EmergencyWorld Pid) : Prop where
  acknowledged : ∀ pid answer, world.returned pid = some answer → pid ∈ world.shared.written
  switch : ∀ pid ∈ world.shared.written, ∀ name ∈ (requests pid).killSwitch,
    ∃ other ∈ world.shared.written, (requests other).killSwitch = some name ∧
      (switches world.shared.control.emergencyPage).lookup name =
        some (.bool (requests other).enabled)
  mode : ∀ pid ∈ world.shared.written, (requests pid).maintenanceMode ≠ none →
    ∃ other ∈ world.shared.written, ∃ mode ∈ (requests other).maintenanceMode,
      (world.shared.control.emergencyPage.property "maintenanceMode").map Json.document =
        some mode.document

/-! ## What a request makes of the page -/

theorem lookup_cons_eq (field : String × Json) (fields : JsObject) (key : String) :
    (field :: fields).lookup key = if key = field.1 then some field.2 else fields.lookup key := by
  rw [List.lookup_cons]
  by_cases same : key = field.1
  · rw [if_pos same, beq_iff_eq.mpr same]
  · rw [if_neg same, beq_false_of_ne same]

theorem mem_of_lookup {fields : JsObject} {key : String} {value : Json}
    (found : fields.lookup key = some value) : (key, value) ∈ fields := by
  obtain ⟨before, after, split, -⟩ := List.lookup_eq_some_iff.mp found
  rw [split]
  exact List.mem_append_right before List.mem_cons_self

theorem lookup_upsertRow (name : String) (value : Json) (fields : JsObject) (key : String) :
    (upsertRow Prod.fst (fun _ field => field) (name, value) fields).lookup key =
      if key = name then some value else fields.lookup key := by
  induction fields with
  | nil => exact lookup_cons_eq (name, value) [] key
  | cons field rest inductionHypothesis =>
      by_cases here : field.1 = name
      · have replaced : upsertRow Prod.fst (fun _ field => field) (name, value) (field :: rest) =
            (name, value) :: rest := if_pos here
        rw [replaced, lookup_cons_eq, lookup_cons_eq]
        by_cases own : key = name
        · rw [if_pos own, if_pos own]
        · rw [if_neg own, if_neg own, if_neg (here ▸ own)]
      · have kept : upsertRow Prod.fst (fun _ field => field) (name, value) (field :: rest) =
            field :: upsertRow Prod.fst (fun _ field => field) (name, value) rest := if_neg here
        rw [kept, lookup_cons_eq, lookup_cons_eq, inductionHypothesis]
        by_cases first : key = field.1
        · have other : key ≠ name := fun own => here (first.symm.trans own)
          rw [if_pos first, if_neg other, if_pos first]
        · rw [if_neg first, if_neg first]

theorem lookup_assign {name : String} (plain : name ≠ "__proto__") (value : Json)
    (fields : JsObject) (key : String) :
    (assign name value fields).lookup key =
      if key = name then some value else fields.lookup key := by
  unfold assign
  rw [if_neg plain]
  exact lookup_upsertRow name value fields key

section Pages

variable {request : EmergencyRequest} {body page stored : Json}

/-- The switches of the page that a request writes. -/
def switched (request : EmergencyRequest) (page : Json) : JsObject :=
  match request.killSwitch with
  | some name => assign name (.bool request.enabled) (switches page)
  | none => switches page

/-- The mode of the page that a request writes. -/
def modeWritten (request : EmergencyRequest) (page : Json) : Json :=
  (request.maintenanceMode.or
    ((page.property "maintenanceMode").filter (· ≠ .null))).getD (.bool false)

theorem lookup_switched (plain : request.Plain) (key : String) :
    (switched request page).lookup key =
      if request.killSwitch = some key then some (.bool request.enabled)
      else (switches page).lookup key := by
  unfold switched
  cases named : request.killSwitch with
  | none => simp
  | some name =>
      have notPrototype : name ≠ "__proto__" := by
        rintro rfl
        exact plain.1 named
      simp only [lookup_assign notPrototype, Option.some.injEq, eq_comm]

/-- The two properties of the written page that the next request reads. -/
theorem emergencyData_properties (isBody : request.body = some body) :
    (Json.obj (emergencyData page body)).property "killSwitches" =
        some (.obj (switched request page)) ∧
      (Json.obj (emergencyData page body)).property "maintenanceMode" =
        some (modeWritten request page) := by
  have ofSwitches : switched request page =
      if truthy (body.property "killSwitch") then
        assign (((body.property "killSwitch").map Json.text).getD "")
          (.bool (truthy (body.property "enabled")))
          (spreadable (page.property "killSwitches"))
      else spreadable (page.property "killSwitches") := by
    unfold switched EmergencyRequest.killSwitch EmergencyRequest.enabled optionalProperty switches
    rw [isBody]
    cases named : body.property "killSwitch" with
    | none => simp [named, truthy]
    | some name =>
        cases counts : name.truthy with
        | true => simp [named, counts, truthy, Option.filter]
        | false => simp [named, counts, truthy, Option.filter]
  have ofMode : modeWritten request page =
      (((body.property "maintenanceMode").filter (· ≠ .null)).or
        ((page.property "maintenanceMode").filter (· ≠ .null))).getD (.bool false) := by
    unfold modeWritten EmergencyRequest.maintenanceMode optionalProperty
    rw [isBody]
    rfl
  have killSwitches : "killSwitches" ≠ "__proto__" := by decide
  have maintenanceMode : "maintenanceMode" ≠ "__proto__" := by decide
  have different : "maintenanceMode" ≠ "killSwitches" := by decide
  rw [ofSwitches, ofMode]
  change (emergencyData page body).lookup "killSwitches" = _ ∧
    (emergencyData page body).lookup "maintenanceMode" = _
  unfold emergencyData
  constructor
  · rw [lookup_assign killSwitches, if_pos rfl]
  · rw [lookup_assign killSwitches, if_neg different, lookup_assign maintenanceMode, if_pos rfl]

/-- What a stored page says of the switches and of the mode. -/
theorem storedPage_properties (isBody : request.body = some body)
    (keeps : stored.document = (Json.obj (emergencyData page body)).document) (key : String)
    (flag : Bool) :
    ((switched request page).lookup key = some (.bool flag) →
        (switches stored).lookup key = some (.bool flag)) ∧
      (stored.property "maintenanceMode").map Json.document =
        some (modeWritten request page).document := by
  obtain ⟨killSwitches, maintenanceMode⟩ := @emergencyData_properties request body page isBody
  have ofStored := fun name => (Json.property_document stored name).symm.trans
    ((congrArg (Json.property name) keeps).trans (Json.property_document _ name))
  constructor
  · intro isSet
    have ofSwitches := ofStored "killSwitches"
    rw [killSwitches] at ofSwitches
    obtain ⟨documents, isStored, sameDocument⟩ := Option.map_eq_some_iff.mp ofSwitches
    have ofKey := (Json.property_document documents key).symm.trans
      ((congrArg (Json.property key) sameDocument).trans (Json.property_document _ key))
    have isFlag : documents.property key = some (.bool flag) := by
      have looked : (Json.obj (switched request page)).property key = some (.bool flag) := isSet
      rw [looked] at ofKey
      obtain ⟨value, found, isBool⟩ := Option.map_eq_some_iff.mp ofKey
      rw [Json.eq_bool_of_document isBool] at found
      exact found
    unfold switches
    rw [isStored]
    cases documents with
    | obj fields => exact isFlag
    | null | bool _ | num _ | str _ | arr _ => cases isFlag
  · rw [ofStored, maintenanceMode]
    rfl

end Pages

/-! ## One statement -/

def ControlStatement.LeavesPages : ControlStatement → Prop
  | .upsertPage _ _ => False
  | _ => True

section Statements

variable {Pid : Type} [DecidableEq Pid] {columns : DocumentColumns} {pid : Pid}
  {delivery : Delivery} {state after : EmergencyState Pid}

theorem executeControl_pages {types : ColumnTypes} {statement : ControlStatement}
    {before after : ControlState} {reply : statement.Reply} (leaves : statement.LeavesPages)
    (executed : executeControl types statement before = .ok (reply, after)) :
    after.pages = before.pages := by
  cases statement with
  | upsertPage => cases leaves
  | selectRuntime | selectPage | insertAudit =>
      cases executed
      rfl
  | selectChange id =>
      obtain ⟨changeId, -, rfl, -⟩ := executeControl_selectChange executed
      rfl
  | upsertChange change =>
      obtain ⟨changeId, -, rfl⟩ := executeControl_upsertChange executed
      rfl
  | upsertDesiredState value =>
      dsimp only [executeControl] at executed
      split at executed
      · cases executed
      · cases executed
        rfl

theorem attempt_pages {types : ColumnTypes} {statement : ControlStatement}
    (leaves : statement.LeavesPages) (control : ControlState) :
    ((controlDatabase types).attempt delivery statement control).2.pages = control.pages := by
  rcases (controlDatabase types).attempt_cases delivery statement control with
    ⟨error, failed⟩ | ⟨reply, after, executed, told | lost⟩
  · rw [failed]
  · rw [told]
    exact executeControl_pages leaves executed
  · rw [lost]
    exact executeControl_pages leaves executed

/-- A statement that writes no page changes neither the page nor the requests
that have written. -/
theorem emergencyOutcome_leaves {types : ColumnTypes} {statement : ControlStatement}
    (leaves : statement.LeavesPages) :
    let after := (emergencyOutcome types pid delivery statement state).2
    after.control.emergencyPage = state.control.emergencyPage ∧
      after.written = state.written := by
  have samePages := @attempt_pages delivery types statement leaves state.control
  constructor
  · unfold ControlState.emergencyPage emergencyOutcome
    dsimp only
    rw [samePages]
  · unfold emergencyOutcome pagesWritten
    cases statement with
    | upsertPage => cases leaves
    | selectRuntime | upsertDesiredState | selectPage | selectChange | upsertChange
    | insertAudit => rfl

theorem pagesRead_other {statement : ControlStatement}
    (reply : Except ApiError statement.Reply) {other : Pid} (different : other ≠ pid) :
    pagesRead pid statement reply state other = state.read other := by
  cases statement with
  | selectPage page =>
      cases page with
      | emergency =>
          cases reply with
          | error error => rfl
          | ok data => exact Function.update_of_ne different _ state.read
      | overview | capabilities | features | providers | environments | dependencies
      | infrastructure | deployments | health | observability | security | secrets | costs
      | backupDr | drift => rfl
  | selectRuntime | upsertDesiredState | upsertPage | selectChange | upsertChange
  | insertAudit => rfl

/-- A write of the emergency page takes effect as a whole or not at all. -/
theorem emergencyOutcome_upsertPage {types : ColumnTypes} {data : Json}
    {reply : Except ApiError Unit}
    (outcome : emergencyOutcome types pid delivery (.upsertPage .emergency (some data)) state =
      (reply, after)) :
    (after.control.emergencyPage = state.control.emergencyPage ∧
        after.written = state.written ∧ ∃ error, reply = .error error) ∨
      ∃ stored, types.jsonb data = some stored ∧
        after.control.emergencyPage = stored ∧ after.written = state.written ++ [pid] := by
  cases accepted : types.jsonb data with
  | none =>
      left
      cases delivery with
      | refused | answered | unacknowledged =>
          simp [emergencyOutcome, pagesWritten, Database.attempt, controlDatabase,
            executeControl, accepted] at outcome
          rw [← outcome.2]
          exact ⟨rfl, rfl, _, outcome.1.symm⟩
  | some stored =>
      have isStored : (⟨{ state.control with
            pages := upsertRow PageRow.page replacePage ⟨.emergency, stored⟩
              state.control.pages }, state.read, state.written ++ [pid]⟩ :
          EmergencyState Pid).control.emergencyPage = stored := by
        unfold ControlState.emergencyPage
        have found := @findRow_upsertRow_self _ _ _ PageRow.page replacePage
          ⟨.emergency, stored⟩ (fun _ _ => rfl) state.control.pages
        dsimp only at found ⊢
        rw [found]
        cases findRow PageRow.page .emergency state.control.pages with
        | none => rfl
        | some row => rfl
      cases delivery with
      | refused =>
          left
          simp [emergencyOutcome, pagesWritten, Database.attempt, controlDatabase] at outcome
          rw [← outcome.2]
          exact ⟨rfl, rfl, _, outcome.1.symm⟩
      | answered | unacknowledged =>
          right
          refine ⟨stored, rfl, ?_⟩
          simp [emergencyOutcome, pagesWritten, Database.attempt, controlDatabase,
            executeControl, accepted] at outcome
          rw [← outcome.2]
          exact ⟨isStored, rfl⟩

end Statements

/-! ## The points of a request -/

/-- The end of a request, after its write. -/
def afterWrite (request : EmergencyRequest) (data : JsObject) : ControlProgram ControlAnswer := do
  PostgresControlStore.recordAudit
    [("type", .str ("control-page." ++ ControlPage.emergency.text ++ ".updated")),
      ("actorId", .str request.operator.userId)]
  PostgresControlStore.recordAudit
    [("type", .str "emergency.desired-state.updated"),
      ("actorId", .str request.operator.userId), ("data", .obj data)]
  let page ← PostgresControlStore.getPage .emergency
  return .page page

def writingPage (request : EmergencyRequest) (data : JsObject) : ControlProgram ControlAnswer :=
  Program.branch (.upsertPage .emergency (some (.obj data)))
    (fun _ => afterWrite request data) Program.fail

/-- A request that has read the page. -/
def afterPage (request : EmergencyRequest) (page : Json) : ControlProgram ControlAnswer := do
  Program.check (throwIf (request.body.getD .null = .null) ApiError.internal)
  writingPage request (emergencyData page (request.body.getD .null))

def readingPage (request : EmergencyRequest) : ControlProgram ControlAnswer :=
  Program.branch (.selectPage .emergency)
    (fun data => afterPage request (data.getD (.obj (initialPage .emergency)))) Program.fail

theorem program_point (request : EmergencyRequest) :
    request.program = readingPage request ∨ ∃ error, request.program = Program.fail error := by
  unfold EmergencyRequest.program postEmergency
  cases requireControlWrite request.operator with
  | error error => exact Or.inr ⟨error, rfl⟩
  | ok allowed =>
      left
      rw [Program.check_ok, Program.done_bind]
      unfold PostgresControlStore.getPage
      rw [Program.call_bind, Program.branch_bind]
      unfold readingPage
      congr 1
      funext data
      rw [Program.pure_eq, Program.done_bind]
      unfold afterPage
      congr 1
      funext checked
      unfold writingPage PostgresControlStore.setPage
      dsimp only
      rw [Program.call_bind, Program.branch_bind]
      congr 1
      funext written
      unfold afterWrite PostgresControlStore.getPage
      rw [Program.call_bind]

inductive EmergencyPoint {Pid : Type} (request : EmergencyRequest) (pid : Pid)
    (state : EmergencyState Pid) : ControlProgram ControlAnswer → Prop
  | reading (unread : state.read pid = none) :
      EmergencyPoint request pid state (readingPage request)
  | writing {page body : Json} (isRead : state.read pid = some page)
      (isBody : request.body = some body) :
      EmergencyPoint request pid state (writingPage request (emergencyData page body))
  | settled {program : ControlProgram ControlAnswer}
      (issues : program.Issues ControlStatement.LeavesPages)
      (returns : program.Returns fun _ => pid ∈ state.written) :
      EmergencyPoint request pid state program

/-- What was written is still there. -/
structure PagesSound {Pid : Type} (requests : Pid → EmergencyRequest)
    (state : EmergencyState Pid) : Prop where
  switch : ∀ pid ∈ state.written, ∀ name ∈ (requests pid).killSwitch,
    ∃ other ∈ state.written, (requests other).killSwitch = some name ∧
      (switches state.control.emergencyPage).lookup name =
        some (.bool (requests other).enabled)
  mode : ∀ pid ∈ state.written, (requests pid).maintenanceMode ≠ none →
    ∃ other ∈ state.written, ∃ mode ∈ (requests other).maintenanceMode,
      (state.control.emergencyPage.property "maintenanceMode").map Json.document =
        some mode.document

section Steps

variable {Pid : Type} {requests : Pid → EmergencyRequest} {pid : Pid}
  {state after : EmergencyState Pid}

/-- Only the page and what was written matter. -/
theorem PagesSound.frame (sound : PagesSound requests state)
    (samePage : after.control.emergencyPage = state.control.emergencyPage)
    (sameWritten : after.written = state.written) : PagesSound requests after := by
  constructor
  · rw [samePage, sameWritten]
    exact sound.switch
  · rw [samePage, sameWritten]
    exact sound.mode

theorem afterPage_point {page : Json} (isRead : state.read pid = some page) :
    EmergencyPoint (requests pid) pid state (afterPage (requests pid) page) := by
  unfold afterPage
  cases isBody : (requests pid).body with
  | none =>
      have isNull : (none : Option Json).getD .null = .null := rfl
      rw [throwIf_of_pos isNull, Program.check_error, Program.fail_bind]
      exact .settled trivial trivial
  | some body =>
      by_cases isNull : (some body).getD .null = Json.null
      · rw [throwIf_of_pos isNull, Program.check_error, Program.fail_bind]
        exact .settled trivial trivial
      · rw [throwIf_of_not isNull, Program.check_ok, Program.done_bind]
        exact .writing isRead isBody

theorem afterWrite_point (data : JsObject) (written : pid ∈ state.written) :
    EmergencyPoint (requests pid) pid state (afterWrite (requests pid) data) := by
  apply EmergencyPoint.settled
  · unfold afterWrite PostgresControlStore.recordAudit PostgresControlStore.getPage
    refine Program.issues_bind (fun _ => Program.issues_bind (fun _ => ?_) ?_) ?_
    · refine Program.issues_bind (fun _ => by trivial) ?_
      refine Program.issues_bind (fun _ => by trivial) (Program.issues_call ?_)
      exact True.intro
    · refine Program.issues_call ?_
      exact True.intro
    · refine Program.issues_call ?_
      exact True.intro
  · exact Program.Returns.mono (fun _ _ => written) (Program.returns_true _)

/-- The write of a request keeps every switch and mode that it does not set,
and puts its own there. -/
theorem PagesSound.write {page body stored : Json} (sound : PagesSound requests state)
    (plain : ∀ pid, (requests pid).Plain) (isBody : (requests pid).body = some body)
    (keepsOthers : KeepsOthers (requests pid) page state.control.emergencyPage)
    (keeps : stored.document = (Json.obj (emergencyData page body)).document)
    (isStored : after.control.emergencyPage = stored)
    (written : after.written = state.written ++ [pid]) : PagesSound requests after := by
  have ownWrite : pid ∈ after.written := by
    rw [written]
    exact List.mem_append_right _ (List.mem_singleton_self pid)
  have properties := @storedPage_properties (requests pid) body page stored isBody keeps
  constructor
  · intro writer member name named
    rw [isStored]
    by_cases own : (requests pid).killSwitch = some name
    · refine ⟨pid, ownWrite, own, (properties name _).1 ?_⟩
      rw [lookup_switched (plain pid), if_pos own]
    · have earlier : writer ∈ state.written := by
        rw [written] at member
        rcases List.mem_append.mp member with before | isPid
        · exact before
        · rw [List.mem_singleton.mp isPid] at named
          exact absurd named own
      obtain ⟨other, otherWritten, otherNamed, isThere⟩ :=
        sound.switch writer earlier name named
      refine ⟨other, ?_, otherNamed, (properties name _).1 ?_⟩
      · rw [written]
        exact List.mem_append_left _ otherWritten
      · rw [lookup_switched (plain pid), if_neg own]
        have member := mem_of_lookup isThere
        rw [← keepsOthers.1 _ (List.mem_append_right _ member) own]
        exact isThere
  · intro writer member sets
    rw [isStored, (properties "" false).2]
    cases own : (requests pid).maintenanceMode with
    | some mode =>
        refine ⟨pid, ownWrite, mode, own, ?_⟩
        simp [modeWritten, own]
    | none =>
        have earlier : writer ∈ state.written := by
          rw [written] at member
          rcases List.mem_append.mp member with before | isPid
          · exact before
          · rw [List.mem_singleton.mp isPid] at sets
            exact absurd own sets
        obtain ⟨other, otherWritten, mode, otherSets, isThere⟩ := sound.mode writer earlier sets
        refine ⟨other, ?_, mode, otherSets, ?_⟩
        · rw [written]
          exact List.mem_append_left _ otherWritten
        · rw [keepsOthers.2 own] at isThere
          obtain ⟨value, isRead, sameDocument⟩ := Option.map_eq_some_iff.mp isThere
          have notNull : value ≠ .null := by
            rintro rfl
            exact (plain other).2 mode otherSets sameDocument.symm
          simp [modeWritten, own, isRead, Option.filter, notNull, sameDocument]

theorem EmergencyPoint.frame {request : EmergencyRequest}
    {program : ControlProgram ControlAnswer} (sameRead : after.read pid = state.read pid)
    (grows : ∀ other ∈ state.written, other ∈ after.written)
    (point : EmergencyPoint request pid state program) :
    EmergencyPoint request pid after program := by
  cases point with
  | reading unread => exact .reading (sameRead.trans unread)
  | writing isRead isBody => exact .writing (sameRead.trans isRead) isBody
  | settled issues returns => exact .settled issues (returns.mono fun _ => grows pid)

variable [DecidableEq Pid] {columns : DocumentColumns} {delivery : Delivery}

/-- What a read of the page answers. -/
theorem emergencyOutcome_selectPage {types : ColumnTypes}
    {reply : Except ApiError (Option Json)} (unread : state.read pid = none)
    (outcome : emergencyOutcome types pid delivery (.selectPage .emergency) state =
      (reply, after)) :
    (∃ error, reply = .error error) ∨
      ∃ data, reply = .ok data ∧
        after.read pid = some (data.getD (.obj (initialPage .emergency))) := by
  unfold emergencyOutcome at outcome
  rcases (controlDatabase types).attempt_cases delivery (.selectPage .emergency)
    state.control with ⟨error, failed⟩ | ⟨data, control, executed, told | lost⟩
  · rw [failed] at outcome
    cases outcome
    exact Or.inl ⟨error, rfl⟩
  · cases executed
    rw [told] at outcome
    cases outcome
    refine Or.inr ⟨_, rfl, ?_⟩
    have isRead : ∀ data, pagesRead pid (.selectPage .emergency) (.ok data) state pid =
        some ((state.read pid).getD state.control.emergencyPage) :=
      fun _ => Function.update_self pid _ state.read
    rw [unread] at isRead
    exact isRead ((findRow PageRow.page .emergency state.control.pages).map PageRow.data)
  · rw [lost] at outcome
    cases outcome
    exact Or.inl ⟨_, rfl⟩

/-- A statement leads its request to the next point and keeps what was
written. -/
theorem EmergencyPoint.own {world : EmergencyWorld Pid} {statement : ControlStatement}
    {next : Except ApiError statement.Reply → ControlProgram ControlAnswer}
    {reply : Except ApiError statement.Reply} {program : ControlProgram ControlAnswer}
    (plain : ∀ pid, (requests pid).Plain) (sound : PagesSound requests world.shared)
    (point : EmergencyPoint (requests pid) pid world.shared program)
    (running : world.programs pid = some program)
    (current : program = .perform statement next)
    (meets : WritesOwnSwitch requests world (.statement pid delivery))
    (outcome : emergencyOutcome columns.toColumnTypes pid delivery statement world.shared =
      (reply, after)) :
    PagesSound requests after ∧ EmergencyPoint (requests pid) pid after (next reply) ∧
      ∀ other ∈ world.shared.written, other ∈ after.written := by
  have leaves : statement.LeavesPages →
      PagesSound requests after ∧ after.written = world.shared.written := by
    intro leavesPages
    have same := @emergencyOutcome_leaves Pid _ pid delivery world.shared columns.toColumnTypes
      statement leavesPages
    rw [outcome] at same
    exact ⟨sound.frame same.1 same.2, same.2⟩
  cases point with
  | reading unread =>
      unfold readingPage at current
      cases current
      obtain ⟨stillSound, sameWritten⟩ := leaves trivial
      refine ⟨stillSound, ?_, fun other member => sameWritten ▸ member⟩
      rcases emergencyOutcome_selectPage unread outcome with ⟨error, rfl⟩ | ⟨data, rfl, isRead⟩
      · exact .settled trivial trivial
      · exact afterPage_point isRead
  | @writing page body isRead isBody =>
      unfold writingPage at current
      cases current
      rcases emergencyOutcome_upsertPage outcome with
        ⟨samePage, sameWritten, error, rfl⟩ | ⟨stored, accepted, isStored, written⟩
      · exact ⟨sound.frame samePage sameWritten, .settled trivial trivial,
          fun other member => sameWritten ▸ member⟩
      · have writesNext : nextPageWriter world (.statement pid delivery) = some pid := by
          simp only [nextPageWriter, running, writingPage, Program.branch]
        have ownWrite : pid ∈ after.written := by
          rw [written]
          exact List.mem_append_right _ (List.mem_singleton_self pid)
        refine ⟨sound.write plain isBody (meets pid writesNext page isRead)
          (columns.jsonb_document accepted) isStored written, ?_, ?_⟩
        · cases reply with
          | ok done => exact afterWrite_point _ ownWrite
          | error error => exact .settled trivial trivial
        · intro other member
          rw [written]
          exact List.mem_append_left _ member
  | settled issues returns =>
      subst current
      obtain ⟨stillSound, sameWritten⟩ := leaves issues.1
      refine ⟨stillSound, .settled (issues.2 reply) ?_, fun other member => sameWritten ▸ member⟩
      rw [sameWritten]
      exact returns reply

theorem emergency_step {world : EmergencyWorld Pid} {event : Event Pid Delivery}
    (plain : ∀ pid, (requests pid).Plain)
    (consistent : world.Consistent (PagesSound requests)
      fun pid => EmergencyPoint (requests pid) pid)
    (meets : WritesOwnSwitch requests world event) :
    (world.step (emergencyServer columns.toColumnTypes) event).Consistent (PagesSound requests)
      fun pid => EmergencyPoint (requests pid) pid := by
  refine World.Consistent.step ?_ ?_ consistent meets
  · intro world pid delivery statement next reply after consistent running meets answered
    have outcome : emergencyOutcome columns.toColumnTypes pid delivery statement world.shared =
        (reply, after) := Option.some.inj answered
    obtain ⟨sound, point, grows⟩ :=
      (consistent.points pid _ running).own plain consistent.shared running rfl meets outcome
    refine ⟨sound, point, ?_⟩
    intro other program different reached
    have sameRead : after.read other = world.shared.read other := by
      have reads := congrArg (fun pair => pair.2.read other) outcome
      exact reads.symm.trans (pagesRead_other _ different)
    exact reached.frame sameRead grows
  · intro pid state sound
    exact ⟨sound, fun _ _ point => point⟩

end Steps

/-! ## Runs -/

section Runs

variable {Pid : Type} {requests : Pid → EmergencyRequest}

theorem switchesKept_of_consistent {world : EmergencyWorld Pid}
    (consistent : world.Consistent (PagesSound requests)
      fun pid => EmergencyPoint (requests pid) pid) : SwitchesKept requests world where
  acknowledged := by
    intro pid answer returned
    have point := consistent.points pid _ (World.returned_eq_some.mp returned)
    generalize reached : (Program.done answer : ControlProgram ControlAnswer) = program at point
    cases point with
    | reading unread => cases reached
    | writing isRead isBody => cases reached
    | settled issues returns =>
        subst reached
        exact returns
  switch := consistent.shared.switch
  mode := consistent.shared.mode

variable [DecidableEq Pid]

/-- In every schedule in which a request finds, when it writes, every switch
and the mode that it does not set as it has read them, no switch and no mode of
a request that has written is lost. -/
theorem switchesKept_of_ownSwitch (columns : DocumentColumns) (control : ControlState)
    (requests : Pid → EmergencyRequest) (plain : ∀ pid, (requests pid).Plain)
    (events : List (Event Pid Delivery))
    (own : EveryStep (World.step (emergencyServer columns.toColumnTypes))
      (WritesOwnSwitch requests) (emergencyStart control requests) events) :
    SwitchesKept requests (run (World.step (emergencyServer columns.toColumnTypes))
      (emergencyStart control requests) events) := by
  apply switchesKept_of_consistent
  refine run_invariant (fun _ _ consistent meets => emergency_step plain consistent meets) ?_ own
  constructor
  · constructor
    · intro pid member
      cases member
    · intro pid member
      cases member
  · intro pid program running
    have started : (requests pid).program = program := Option.some.inj running
    rcases program_point (requests pid) with reads | ⟨error, fails⟩
    · rw [← started, reads]
      exact .reading rfl
    · rw [← started, fails]
      exact .settled trivial trivial

end Runs

/-! ## Two requests on different switches -/

/-- One operator turns a switch for uploads on, another one for email. -/
private def uploadsOrEmail (uploads : Bool) : EmergencyRequest where
  operator := Operator.sre "operator" ["platform:write"]
  body := some (.obj
    [("killSwitch", .str (if uploads then "uploads" else "email")), ("enabled", .bool true)])

private def sends (uploads : Bool) : Event Bool Delivery :=
  .statement uploads .answered

/-- The second request reads the page after the first has written it. -/
theorem switchesKept_in_turn :
    SwitchesKept uploadsOrEmail
      (run (World.step (emergencyServer DocumentColumns.verbatim.toColumnTypes))
        (emergencyStart emptyControlState uploadsOrEmail)
        [sends true, sends true, sends false, sends false, sends true, sends false]) :=
  switchesKept_of_ownSwitch DocumentColumns.verbatim emptyControlState uploadsOrEmail
    (by decide) _ (by decide)

/-- Both read the empty page: the second write takes the first switch away,
and both are answered. -/
theorem switch_lost :
    let world := run (World.step (emergencyServer DocumentColumns.verbatim.toColumnTypes))
      (emergencyStart emptyControlState uploadsOrEmail)
      [sends true, sends false, sends true, sends false, sends true, sends true, sends true,
        sends false, sends false, sends false]
    (∀ uploads, (world.returned uploads).isSome) ∧ ¬ SwitchesKept uploadsOrEmail world := by
  refine ⟨by decide, ?_⟩
  intro kept
  obtain ⟨other, -, -, isThere⟩ := kept.switch true (by decide) "uploads" (by decide)
  revert isThere
  cases other with
  | true | false => decide

end PlatformArchitecture.ControlApi
