import PlatformArchitecture.ControlApi.Routes
import PlatformArchitecture.Foundations.JsonFields
import PlatformArchitecture.Foundations.Run

/-!
# The routes of the secrets page

The routes that read and write the pages, over either store.  A body that is
accepted has no field that redaction would touch, so it is read back as the
store gives it back.
-/

namespace PlatformArchitecture.ControlApi

open PlatformArchitecture.Foundations
open PlatformArchitecture.Postgres

/-! ## What is checked and what is redacted -/

/-- A value without a field that could carry a secret. -/
abbrev MetadataOnly (value : Json) : Prop :=
  value.EveryField fun key _ => normalizedKey key ∉ forbiddenSecretFields

/-- A value whose fields that could carry a secret have been redacted. -/
abbrev SecretsRedacted (value : Json) : Prop :=
  value.EveryField fun key found =>
    normalizedKey key ∈ forbiddenSecretFields → found = .str "[REDACTED]"

mutual

/-- The check accepts just the values without such a field. -/
theorem assertSecretMetadataOnly_eq_ok_iff : ∀ (path : String) (value : Json),
    assertSecretMetadataOnly path value = .ok () ↔ MetadataOnly value
  | _, .null | _, .bool _ | _, .num _ | _, .str _ => iff_of_true rfl trivial
  | path, .arr items => assertItems_eq_ok_iff path 0 items
  | path, .obj fields => assertFields_eq_ok_iff path fields

theorem assertItems_eq_ok_iff : ∀ (path : String) (index : Nat) (items : List Json),
    assertItems path index items = .ok () ↔
      Json.EveryFieldOfItems (fun key _ => normalizedKey key ∉ forbiddenSecretFields) items
  | _, _, [] => iff_of_true rfl trivial
  | path, index, item :: rest => by
      have first :=
        assertSecretMetadataOnly_eq_ok_iff (path ++ "[" ++ toString index ++ "]") item
      have others := assertItems_eq_ok_iff path (index + 1) rest
      rw [assertItems, bind_eq_ok]
      constructor
      · rintro ⟨_passed, isFirst, areOthers⟩
        exact ⟨first.mp isFirst, others.mp areOthers⟩
      · rintro ⟨isFirst, areOthers⟩
        exact ⟨(), first.mpr isFirst, others.mpr areOthers⟩

theorem assertFields_eq_ok_iff : ∀ (path : String) (fields : List (String × Json)),
    assertFields path fields = .ok () ↔
      Json.EveryFieldOf (fun key _ => normalizedKey key ∉ forbiddenSecretFields) fields
  | _, [] => iff_of_true rfl trivial
  | path, (key, nested) :: rest => by
      have first := assertSecretMetadataOnly_eq_ok_iff (path ++ "." ++ key) nested
      have others := assertFields_eq_ok_iff path rest
      rw [assertFields, bind_eq_ok]
      constructor
      · rintro ⟨_passed, allowed, following⟩
        obtain ⟨_checked, isFirst, areOthers⟩ := bind_eq_ok.mp following
        exact ⟨throwIf_eq_ok.mp allowed, first.mp isFirst, others.mp areOthers⟩
      · rintro ⟨allowed, isFirst, areOthers⟩
        exact ⟨⟨⟩, throwIf_of_not allowed,
          bind_eq_ok.mpr ⟨(), first.mpr isFirst, others.mpr areOthers⟩⟩

end

mutual

/-- Redaction leaves a value without such a field as it is. -/
theorem redactSecretMaterial_of_metadataOnly : ∀ (key : String) (value : Json),
    normalizedKey key ∉ forbiddenSecretFields → MetadataOnly value →
      redactSecretMaterial key value = value
  | key, .arr items, allowed, only => by
      rw [redactSecretMaterial, if_neg allowed]
      exact congrArg Json.arr (redactItems_of_metadataOnly items only)
  | key, .obj fields, allowed, only => by
      rw [redactSecretMaterial, if_neg allowed]
      exact congrArg Json.obj (redactFields_of_metadataOnly fields only)
  | key, .null, allowed, _only | key, .bool _, allowed, _only | key, .num _, allowed, _only
  | key, .str _, allowed, _only => by
      unfold redactSecretMaterial
      exact if_neg allowed

theorem redactItems_of_metadataOnly : ∀ items : List Json,
    Json.EveryFieldOfItems (fun key _ => normalizedKey key ∉ forbiddenSecretFields) items →
      redactItems items = items
  | [], _only => rfl
  | item :: rest, only => by
      rw [redactItems, redactSecretMaterial_of_metadataOnly "" item (by decide) only.1,
        redactItems_of_metadataOnly rest only.2]

theorem redactFields_of_metadataOnly : ∀ fields : List (String × Json),
    Json.EveryFieldOf (fun key _ => normalizedKey key ∉ forbiddenSecretFields) fields →
      redactFields fields = fields
  | [], _only => rfl
  | (key, nested) :: rest, only => by
      rw [redactFields, redactSecretMaterial_of_metadataOnly key nested only.1 only.2.1,
        redactFields_of_metadataOnly rest only.2.2]

end

mutual

/-- Redaction reaches every field that could carry a secret. -/
theorem secretsRedacted_redactSecretMaterial : ∀ (key : String) (value : Json),
    SecretsRedacted (redactSecretMaterial key value)
  | key, .arr items => by
      rw [redactSecretMaterial]
      split
      · trivial
      · exact secretsRedacted_redactItems items
  | key, .obj fields => by
      rw [redactSecretMaterial]
      split
      · trivial
      · exact secretsRedacted_redactFields fields
  | key, .null | key, .bool _ | key, .num _ | key, .str _ => by
      unfold redactSecretMaterial
      split <;> trivial

theorem secretsRedacted_redactItems : ∀ items : List Json,
    Json.EveryFieldOfItems (fun key found =>
      normalizedKey key ∈ forbiddenSecretFields → found = .str "[REDACTED]") (redactItems items)
  | [] => trivial
  | item :: rest =>
      ⟨secretsRedacted_redactSecretMaterial "" item, secretsRedacted_redactItems rest⟩

theorem secretsRedacted_redactFields : ∀ fields : List (String × Json),
    Json.EveryFieldOf (fun key found =>
      normalizedKey key ∈ forbiddenSecretFields → found = .str "[REDACTED]")
      (redactFields fields)
  | [] => trivial
  | (key, nested) :: rest => by
      refine ⟨?_, secretsRedacted_redactSecretMaterial key nested,
        secretsRedacted_redactFields rest⟩
      intro forbidden
      unfold redactSecretMaterial
      exact if_pos forbidden

end

/-! ## The page routes -/

/-- A snapshot of a page; the store in memory keeps `undefined` too. -/
structure ControlSnapshot where
  updatedAt : String
  data : Option Json

/-- The two operations of `ControlStore` that the page routes use.  A choice is
what the environment makes of one call: the time, and how its statements are
delivered. -/
structure PageStore where
  State : Type
  Choice : Type
  setPage : Choice → ControlPage → Option Json → (actorId : String) → State →
    Except ApiError Unit × State
  getPage : Choice → ControlPage → State → Except ApiError ControlSnapshot

/-- `InMemoryControlStore`: a map that holds every page from the start. -/
def inMemoryPages : PageStore where
  State := ControlPage → ControlSnapshot
  Choice := String
  setPage now page data _actorId pages := (.ok (), Function.update pages page ⟨now, data⟩)
  getPage _now page pages := .ok (pages page)

def newPages (startedAt : String) : inMemoryPages.State :=
  fun page => ⟨startedAt, some (.obj (initialPage page))⟩

/-- How the statements of a call are delivered, and the time of the row. -/
structure PageStatements where
  deliveries : List Delivery
  updatedAt : String

/-- `PostgresControlStore`. -/
def postgresPages (types : ColumnTypes) : PageStore where
  State := ControlState
  Choice := PageStatements
  setPage statements page data actorId state :=
    (PostgresControlStore.setPage page data actorId).run (controlDatabase types)
      statements.deliveries state
  getPage statements page state :=
    ((PostgresControlStore.getPage page).run (controlDatabase types) statements.deliveries
      state).1.map fun data => ⟨statements.updatedAt, some data⟩

/-- The requests of an authenticated operator to the page routes. -/
inductive PageRequest where
  | getPage (page : String)
  | putPage (operator : Operator) (page : String) (body : Option Json)
  | getSecrets

/-- What the environment makes of a request: of its write and of its read. -/
structure PageMoment (store : PageStore) where
  requestId : String
  write : store.Choice
  read : store.Choice

structure ControlResponse where
  status : Nat
  body : Json

/-- `JSON.stringify(snapshot)`: an absent property is left out. -/
def ControlSnapshot.body (snapshot : ControlSnapshot) : Json :=
  .obj (("updatedAt", .str snapshot.updatedAt) ::
    (snapshot.data.map fun data => ("data", data.reparsed)).toList)

theorem ControlSnapshot.property_body (snapshot : ControlSnapshot) :
    snapshot.body.property "data" = snapshot.data.map Json.reparsed := by
  obtain ⟨updatedAt, data⟩ := snapshot
  cases data with
  | none | some data => simp [ControlSnapshot.body, Json.property, List.lookup_cons]

/-- What the error handler and the unknown page answer with. -/
def errorBody (requestId : String) (error : ApiError) : Json :=
  .obj [("error", .obj [("code", .str error.code), ("message", .str error.message),
    ("requestId", .str requestId)])]

def pageNotFound : ApiError :=
  ⟨404, "CONTROL_PAGE_NOT_FOUND", "Unknown control-center page"⟩

/-- The page a request names. -/
def requestedPage (page : String) : Except ApiError ControlPage :=
  match ControlPage.ofText? page with
  | none => .error pageNotFound
  | some page => .ok page

/-- The checks of `PUT /v1/control/pages/:page`. -/
def checkPut (operator : Operator) (page : String) (body : Option Json) :
    Except ApiError ControlPage := do
  requireControlWrite operator
  let page ← requestedPage page
  if page = .secrets then assertSecretMetadataOnly "secrets" (body.getD .null)
  return page

namespace PageStore

variable (store : PageStore)

/-- The snapshot of a page, redacted when it is that of the secrets. -/
def readPage (choice : store.Choice) (page : ControlPage) (state : store.State) :
    Except ApiError ControlSnapshot :=
  (store.getPage choice page state).map fun snapshot =>
    if page = .secrets then
      { snapshot with data := snapshot.data.map (redactSecretMaterial "") }
    else snapshot

def handle (moment : PageMoment store) (state : store.State) :
    PageRequest → Except ApiError ControlSnapshot × store.State
  | .getPage page =>
      ((requestedPage page).bind fun page => store.readPage moment.read page state, state)
  | .putPage operator page body =>
      match checkPut operator page body with
      | .error error => (.error error, state)
      | .ok page =>
          match store.setPage moment.write page body operator.userId state with
          | (.error error, after) => (.error error, after)
          | (.ok (), after) => (store.readPage moment.read page after, after)
  | .getSecrets => (store.readPage moment.read .secrets state, state)

def respond (moment : PageMoment store) :
    Except ApiError ControlSnapshot → ControlResponse
  | .ok snapshot => ⟨200, snapshot.body⟩
  | .error error => ⟨error.statusCode, errorBody moment.requestId error⟩

/-- The response to a request. -/
def answer (state : store.State) (request : PageMoment store × PageRequest) :
    ControlResponse :=
  store.respond request.1 (store.handle request.1 state request.2).1

/-- The state after a request. -/
def step (state : store.State) (request : PageMoment store × PageRequest) : store.State :=
  (store.handle request.1 state request.2).2

end PageStore

/-- The request is not answered with an error. -/
def PageStore.Accepts (store : PageStore) (state : store.State)
    (request : PageMoment store × PageRequest) : Prop :=
  ∃ snapshot, (store.handle request.1 state request.2).1 = .ok snapshot

/-- A request that reads the secrets page. -/
def PageRequest.ReadsSecrets : PageRequest → Prop
  | .getPage page => page = "secrets"
  | .getSecrets => True
  | .putPage _ _ _ => False

/-- A request that would write the secrets page. -/
def PageRequest.WritesSecrets : PageRequest → Prop
  | .putPage _ page _ => page = "secrets"
  | _ => False

/-! ## What a store gives back -/

/-- What a store has under each page, where `written` relates what is written to
what is found. -/
structure PageStore.Keeps (store : PageStore) (written : Option Json → Option Json → Prop) where
  data : store.State → ControlPage → Option Json
  read : ∀ {choice page state snapshot}, store.getPage choice page state = .ok snapshot →
    snapshot.data = data state page
  wrote : ∀ {choice page value actorId state after},
    store.setPage choice page value actorId state = (.ok (), after) →
      written value (data after page)
  others : ∀ {choice page value actorId state result after} (other : ControlPage),
    store.setPage choice page value actorId state = (result, after) → other ≠ page →
      data after other = data state other

theorem requestedPage_eq_ok {text : String} {page : ControlPage}
    (named : requestedPage text = .ok page) : page.text = text := by
  unfold requestedPage at named
  split at named
  · cases named
  · next found isFound =>
    obtain rfl := Except.ok.inj named
    simpa using List.find?_some isFound

theorem checkPut_eq_ok {operator : Operator} {text : String} {body : Option Json}
    {page : ControlPage} (accepted : checkPut operator text body = .ok page) :
    requestedPage text = .ok page ∧
      (page = .secrets → MetadataOnly (body.getD .null)) := by
  obtain ⟨_mayWrite, _permitted, following⟩ := bind_eq_ok.mp accepted
  obtain ⟨found, named, checked⟩ := bind_eq_ok.mp following
  by_cases isSecrets : found = .secrets
  · rw [if_pos isSecrets] at checked
    obtain ⟨_passed, only, returned⟩ := bind_eq_ok.mp checked
    obtain rfl := Except.ok.inj returned
    exact ⟨named, fun _ => (assertSecretMetadataOnly_eq_ok_iff _ _).mp only⟩
  · rw [if_neg isSecrets] at checked
    obtain rfl := Except.ok.inj checked
    exact ⟨named, fun same => absurd same isSecrets⟩

section Keeps

variable {store : PageStore} {written : Option Json → Option Json → Prop}
  (keeps : store.Keeps written) {state : store.State} {moment : PageMoment store}

include keeps

/-- A read of the secrets page answers with what is there, redacted. -/
theorem data_of_readsSecrets {request : PageRequest} {snapshot : ControlSnapshot}
    (reads : request.ReadsSecrets)
    (answered : (store.handle moment state request).1 = .ok snapshot) :
    snapshot.data = (keeps.data state .secrets).map (redactSecretMaterial "") := by
  have isRead : store.readPage moment.read .secrets state = .ok snapshot := by
    cases request with
    | getPage page =>
        obtain rfl : page = "secrets" := reads
        exact answered
    | putPage operator page body => cases reads
    | getSecrets => exact answered
  obtain ⟨found, isFound, rfl⟩ := map_eq_ok.mp isRead
  rw [if_pos rfl]
  exact congrArg (Option.map (redactSecretMaterial "")) (keeps.read isFound)

/-- A request that does not write the secrets page leaves it. -/
theorem data_step_of_not_writesSecrets {request : PageMoment store × PageRequest}
    (other : ¬ request.2.WritesSecrets) :
    keeps.data (store.step state request) .secrets = keeps.data state .secrets := by
  obtain ⟨moment, request⟩ := request
  cases request with
  | getPage page | getSecrets => rfl
  | putPage operator page body =>
      show keeps.data (store.handle moment state _).2 .secrets = _
      unfold PageStore.handle
      dsimp only
      cases checked : checkPut operator page body with
      | error error => rfl
      | ok named =>
          have different : ControlPage.secrets ≠ named := by
            rintro rfl
            exact other (requestedPage_eq_ok (checkPut_eq_ok checked).1).symm
          cases wrote : store.setPage moment.write named body operator.userId state with
          | mk result after =>
              have kept := keeps.others .secrets wrote different
              dsimp only
              rw [wrote]
              cases result with
              | error error | ok _ => exact kept

/-- A body of the secrets page that is accepted is written and has no field
that could carry a secret. -/
theorem written_of_accepted {operator : Operator} {body : Option Json}
    {snapshot : ControlSnapshot}
    (accepted : (store.handle moment state (.putPage operator "secrets" body)).1 =
      .ok snapshot) :
    written body
        (keeps.data (store.step state (moment, .putPage operator "secrets" body)) .secrets) ∧
      MetadataOnly (body.getD .null) := by
  unfold PageStore.step
  unfold PageStore.handle at accepted ⊢
  dsimp only at accepted ⊢
  cases checked : checkPut operator "secrets" body with
  | error error =>
      rw [checked] at accepted
      cases accepted
  | ok page =>
      obtain ⟨named, only⟩ := checkPut_eq_ok checked
      obtain rfl : .secrets = page := Except.ok.inj named
      rw [checked] at accepted
      dsimp only at accepted ⊢
      cases wrote : store.setPage moment.write .secrets body operator.userId state with
      | mk result after =>
          rw [wrote] at accepted
          cases result with
          | error error => cases accepted
          | ok _ => exact ⟨keeps.wrote wrote, only rfl⟩

/-- What is read of the secrets page after an accepted body, as long as nothing
else writes the page. -/
theorem answer_of_read_after_put {operator : Operator} {body : Option Json}
    {later : List (PageMoment store × PageRequest)} {read : PageMoment store × PageRequest}
    (accepted : store.Accepts state (moment, .putPage operator "secrets" body))
    (unwritten : ∀ request ∈ later, ¬ request.2.WritesSecrets) (reads : read.2.ReadsSecrets)
    (answered : store.Accepts (run store.step state
      ((moment, .putPage operator "secrets" body) :: later)) read) :
    MetadataOnly (body.getD .null) ∧
      ∃ stored, written body stored ∧
        (store.answer (run store.step state
          ((moment, .putPage operator "secrets" body) :: later)) read).body.property "data" =
            stored.map fun data => (redactSecretMaterial "" data).reparsed := by
  obtain ⟨put, isPut⟩ := accepted
  obtain ⟨found, isFound⟩ := answered
  obtain ⟨isWritten, only⟩ := written_of_accepted keeps isPut
  have others :
      EveryStep store.step (fun _ request => ¬ request.2.WritesSecrets)
        (store.step state (moment, .putPage operator "secrets" body)) later :=
    @everyStep_of_mem _ _ store.step (fun request => ¬ request.2.WritesSecrets) _ _ unwritten
  have kept :=
    run_unchanged (fun after => keeps.data after .secrets)
      (fun _ _ other => data_step_of_not_writesSecrets keeps other) others
  have isData := data_of_readsSecrets keeps reads isFound
  refine ⟨only, _, isWritten, ?_⟩
  rw [run_cons, kept] at isData
  unfold PageStore.answer
  rw [isFound]
  show found.body.property "data" = _
  rw [ControlSnapshot.property_body, isData, Option.map_map]
  rfl

end Keeps

end PlatformArchitecture.ControlApi
