import PlatformArchitecture.ControlApi.SecretPages
import PlatformArchitecture.ControlApi.StoreAgreement

/-!
# The secrets page over whole runs

Both stores keep an accepted body until the page is written again.  Whatever
the store holds, no answer about the secrets page has anything but the mark of
a redaction in a field that could carry a secret.
-/

namespace PlatformArchitecture.ControlApi

open PlatformArchitecture.Foundations
open PlatformArchitecture.Postgres

/-! ## Both stores -/

/-- The map holds what was written. -/
def inMemoryPages_keeps : inMemoryPages.Keeps fun value found => found = value where
  data pages page := (pages page).data
  read answered := congrArg ControlSnapshot.data (Except.ok.inj answered).symm
  wrote := by
    intro now page value actorId pages after wrote
    obtain ⟨-, rfl⟩ := Prod.mk.inj wrote
    exact congrArg ControlSnapshot.data (Function.update_self page _ pages)
  others := by
    intro now page value actorId pages result after other wrote different
    obtain ⟨-, rfl⟩ := Prod.mk.inj wrote
    exact congrArg ControlSnapshot.data (Function.update_of_ne different _ pages)

/-- The document of a page, from its row or from the start. -/
def ControlState.pageData (state : ControlState) (page : ControlPage) : Json :=
  ((findRow PageRow.page page state.pages).map PageRow.data).getD (.obj (initialPage page))

theorem pageData_upsertPage {types : ColumnTypes} {page : ControlPage} {body : Option Json}
    {before after : ControlState} {reply : Unit}
    (executed : executeControl types (.upsertPage page body) before = .ok (reply, after)) :
    ∃ stored, body.bind types.jsonb = some stored ∧
      ∀ other, after.pageData other = if other = page then stored else before.pageData other := by
  dsimp only [executeControl] at executed
  split at executed
  · cases executed
  · next stored accepted =>
    cases executed
    exact ⟨stored, accepted, fun other => data_of_upsertPage before.pages page other stored _⟩

theorem ensures_setPage {types : ColumnTypes} (page : ControlPage) (body : Option Json)
    (actorId : String) (state : ControlState) :
    (PostgresControlStore.setPage page body actorId).Ensures (controlDatabase types)
      (fun result after =>
        (∀ other, other ≠ page → after.pageData other = state.pageData other) ∧
          (result = .ok () → body.bind types.jsonb = some (after.pageData page))) state := by
  apply Program.ensures_bind
  apply Program.ensures_call
  · intro error
    exact ⟨fun _ _ => rfl, fun succeeded => nomatch succeeded⟩
  · intro reply after executed
    obtain ⟨stored, accepted, found⟩ := pageData_upsertPage executed
    have others : ∀ other, other ≠ page → after.pageData other = state.pageData other := by
      intro other different
      rw [found, if_neg different]
    have own : body.bind types.jsonb = some (after.pageData page) := by
      rw [found, if_pos rfl]
      exact accepted
    refine ⟨?_, others, fun succeeded => nomatch succeeded⟩
    apply Program.ensures_call
    · intro error
      exact ⟨others, fun succeeded => nomatch succeeded⟩
    · intro recorded final inserted
      cases inserted
      exact ⟨⟨others, fun _ => own⟩, others, fun succeeded => nomatch succeeded⟩

/-- The table holds what its column made of what was written. -/
def postgresPages_keeps (types : ColumnTypes) :
    (postgresPages types).Keeps fun body found => body.bind types.jsonb = found ∧ found.isSome where
  data state page := some (ControlState.pageData state page)
  read := by
    intro statements page state snapshot answered
    obtain ⟨data, read, rfl⟩ := map_eq_ok.mp answered
    have ensured :
        (PostgresControlStore.getPage page).Ensures (controlDatabase types)
          (fun result _ => ∀ found, result = .ok found → found = state.pageData page) state := by
      apply Program.ensures_bind
      apply Program.ensures_call_read
      · intro reply after executed
        cases executed
        rfl
      · intro error found failed
        cases failed
      · intro reply executed found returned
        cases executed
        exact (Except.ok.inj returned).symm
    exact congrArg some (ensured.run statements.deliveries data read)
  wrote := by
    intro statements page body actorId state after wrote
    have ensured := (@ensures_setPage types page body actorId state).run statements.deliveries
    rw [show (PostgresControlStore.setPage page body actorId).run (controlDatabase types)
      statements.deliveries state = (.ok (), after) from wrote] at ensured
    exact ⟨ensured.2 rfl, rfl⟩
  others := by
    intro statements page body actorId state result after other wrote different
    have ensured := (@ensures_setPage types page body actorId state).run statements.deliveries
    rw [show (PostgresControlStore.setPage page body actorId).run (controlDatabase types)
      statements.deliveries state = (result, after) from wrote] at ensured
    exact congrArg some (ensured.1 other different)

/-! ## What the secrets page answers with -/

/-- Writing a redacted value keeps it redacted. -/
theorem secretsRedacted_reparsed {value : Json} (redacted : SecretsRedacted value) :
    SecretsRedacted value.reparsed := by
  apply Json.EveryField.reparsed _ value redacted
  intro key found isRedacted forbidden
  rw [isRedacted forbidden]
  rfl

theorem secretsRedacted_body {snapshot : ControlSnapshot}
    (redacted : ∀ data ∈ snapshot.data, SecretsRedacted data) :
    SecretsRedacted snapshot.body := by
  have allowed : normalizedKey "updatedAt" ∉ forbiddenSecretFields ∧
      normalizedKey "data" ∉ forbiddenSecretFields := by
    decide +kernel
  obtain ⟨updatedAt, data⟩ := snapshot
  refine ⟨fun forbidden => absurd forbidden allowed.1, trivial, ?_⟩
  cases data with
  | none => trivial
  | some data =>
      exact ⟨fun forbidden => absurd forbidden allowed.2,
        secretsRedacted_reparsed (redacted data rfl), trivial⟩

theorem secretsRedacted_errorBody (requestId : String) (error : ApiError) :
    SecretsRedacted (errorBody requestId error) := by
  have allowed : normalizedKey "error" ∉ forbiddenSecretFields ∧
      normalizedKey "code" ∉ forbiddenSecretFields ∧
      normalizedKey "message" ∉ forbiddenSecretFields ∧
      normalizedKey "requestId" ∉ forbiddenSecretFields := by
    decide +kernel
  obtain ⟨outer, code, message, request⟩ := allowed
  exact ⟨fun forbidden => absurd forbidden outer,
    ⟨fun forbidden => absurd forbidden code, trivial,
      fun forbidden => absurd forbidden message, trivial,
      fun forbidden => absurd forbidden request, trivial, trivial⟩, trivial⟩

theorem secretsRedacted_readPage {store : PageStore} {choice : store.Choice}
    {state : store.State} {snapshot : ControlSnapshot}
    (read : store.readPage choice .secrets state = .ok snapshot) :
    SecretsRedacted snapshot.body := by
  obtain ⟨found, _isFound, rfl⟩ := map_eq_ok.mp read
  rw [if_pos rfl]
  apply secretsRedacted_body
  intro data isData
  obtain ⟨raw, _isRaw, rfl⟩ := Option.map_eq_some_iff.mp isData
  exact secretsRedacted_redactSecretMaterial "" raw

/-- No answer about the secrets page has a secret in it, whatever the store
holds. -/
theorem secretsRedacted_answer {store : PageStore} (state : store.State)
    (moment : PageMoment store) {request : PageRequest}
    (concerns : request.ReadsSecrets ∨ request.WritesSecrets) :
    SecretsRedacted (store.answer state (moment, request)).body := by
  unfold PageStore.answer
  cases result : (store.handle moment state request).1 with
  | error error => exact secretsRedacted_errorBody moment.requestId error
  | ok snapshot =>
      have isRead : ∃ choice after, store.readPage choice .secrets after = .ok snapshot := by
        cases request with
        | getPage page =>
            obtain rfl : page = "secrets" := concerns.resolve_right id
            exact ⟨_, _, result⟩
        | getSecrets => exact ⟨_, _, result⟩
        | putPage operator page body =>
            obtain rfl : page = "secrets" := concerns.resolve_left id
            unfold PageStore.handle at result
            dsimp only at result
            cases checked : checkPut operator "secrets" body with
            | error error =>
                rw [checked] at result
                cases result
            | ok page =>
                obtain rfl : .secrets = page :=
                  Except.ok.inj (checkPut_eq_ok checked).1
                rw [checked] at result
                dsimp only at result
                split at result
                · cases result
                · exact ⟨_, _, result⟩
      obtain ⟨choice, after, read⟩ := isRead
      exact secretsRedacted_readPage read

/-- A `jsonb` column whose objects come back as they were, but for the order of
properties and for infinities. -/
def KeepsObjects (types : ColumnTypes) : Prop :=
  ∀ fields stored, types.jsonb (.obj fields) = some stored →
    stored.document = (Json.obj fields).document

/-- A stored object without a field that could carry a secret has none. -/
theorem metadataOnly_of_document {value stored : Json} (same : stored.document = value.document)
    (only : MetadataOnly value) : MetadataOnly stored := by
  have inDocument := (Json.everyField_document_iff value).mpr only
  rw [← same] at inDocument
  exact (Json.everyField_document_iff stored).mp inDocument

/-- The store in memory answers every read of the secrets page. -/
theorem inMemoryPages_accepts (pages : inMemoryPages.State) (moment : PageMoment inMemoryPages)
    {request : PageRequest} (reads : request.ReadsSecrets) :
    inMemoryPages.Accepts pages (moment, request) := by
  cases request with
  | getPage page =>
      obtain rfl : page = "secrets" := reads
      exact ⟨_, rfl⟩
  | getSecrets => exact ⟨_, rfl⟩
  | putPage operator page body => cases reads

/-- An accepted body of the secrets page is read back by both routes until the
page is written again: from memory as its JSON text holds it, from the database
up to the order of properties where it is an object.  No answer about the page
has a secret in it. -/
theorem secretsPage_readBack_and_redacted :
    (∀ (pages : inMemoryPages.State) (moment : PageMoment inMemoryPages) operator body later
        (read : PageMoment inMemoryPages × PageRequest),
      inMemoryPages.Accepts pages (moment, .putPage operator "secrets" body) →
      (∀ request ∈ later, ¬ request.2.WritesSecrets) → read.2.ReadsSecrets →
        (inMemoryPages.answer (run inMemoryPages.step pages
          ((moment, .putPage operator "secrets" body) :: later)) read).status = 200 ∧
        (inMemoryPages.answer (run inMemoryPages.step pages
          ((moment, .putPage operator "secrets" body) :: later)) read).body.property "data" =
            body.map Json.reparsed) ∧
      (∀ types, KeepsObjects types → ∀ (tables : (postgresPages types).State)
          (moment : PageMoment (postgresPages types)) operator fields later
          (read : PageMoment (postgresPages types) × PageRequest),
        (postgresPages types).Accepts tables
          (moment, .putPage operator "secrets" (some (.obj fields))) →
        (∀ request ∈ later, ¬ request.2.WritesSecrets) → read.2.ReadsSecrets →
        (postgresPages types).Accepts (run (postgresPages types).step tables
          ((moment, .putPage operator "secrets" (some (.obj fields))) :: later)) read →
          ∃ data, ((postgresPages types).answer (run (postgresPages types).step tables
            ((moment, .putPage operator "secrets" (some (.obj fields))) :: later))
              read).body.property "data" = some data ∧
            data.document = (Json.obj fields).document) ∧
      ∀ (store : PageStore) state (moment : PageMoment store) (request : PageRequest),
        request.ReadsSecrets ∨ request.WritesSecrets →
          SecretsRedacted (store.answer state (moment, request)).body := by
  refine ⟨?_, ?_, fun store state moment request => secretsRedacted_answer state moment⟩
  · intro pages moment operator body later read accepted unwritten reads
    have answered := @inMemoryPages_accepts (run inMemoryPages.step pages
      ((moment, .putPage operator "secrets" body) :: later)) read.1 _ reads
    obtain ⟨only, stored, rfl, isData⟩ :=
      answer_of_read_after_put inMemoryPages_keeps accepted unwritten reads answered
    refine ⟨?_, ?_⟩
    · obtain ⟨snapshot, isFound⟩ := answered
      unfold PageStore.answer
      rw [isFound]
      rfl
    · rw [isData]
      cases stored with
      | none => rfl
      | some stored =>
          exact congrArg (fun data => some data.reparsed)
            (redactSecretMaterial_of_metadataOnly "" stored (by decide) only)
  · intro types keepsObjects tables moment operator fields later read accepted unwritten reads
      answered
    obtain ⟨only, found, ⟨isStored, present⟩, isData⟩ :=
      answer_of_read_after_put (postgresPages_keeps types) accepted unwritten reads answered
    cases stored : types.jsonb (.obj fields) with
    | none =>
        rw [← isStored] at present
        simp [stored] at present
    | some value =>
        have same := keepsObjects fields value stored
        have isFound : found = some value := isStored.symm.trans stored
        rw [isFound] at isData
        have unredacted := redactSecretMaterial_of_metadataOnly "" value (by decide)
          (metadataOnly_of_document same only)
        refine ⟨_, isData, ?_⟩
        dsimp only
        rw [unredacted]
        exact (congrArg Json.sorted (Json.reparsed_reparsed value)).trans same

section Example

private def secretsOperator : Operator :=
  Operator.sre "sre-1" ["*"]

/-- A reference to a secret, with its rotation. -/
private def secretReference : List (String × Json) :=
  [("reference", .str "vault://documents/key"),
    ("rotation", .obj [("days", .num (.finite 90))])]

/-- A body that was sent as `{ "days": 1e400 }`. -/
private def endlessRotation : Json :=
  .obj [("days", .num (.infinite false))]

private def memoryMoment : PageMoment inMemoryPages :=
  ⟨"request-1", "2026-01-01T00:00:00.000Z", "2026-01-01T00:00:00.000Z"⟩

/-- A moment at which every statement is answered. -/
private def tablesMoment : PageMoment (postgresPages ColumnTypes.verbatim) :=
  ⟨"request-1", ⟨[], "2026-01-01T00:00:00.000Z"⟩, ⟨[], "2026-01-01T00:00:00.000Z"⟩⟩

private theorem checkPut_secretReference :
    checkPut secretsOperator "secrets" (some (.obj secretReference)) = .ok .secrets := by
  decide +kernel

private theorem secretReference_inMemory :
    inMemoryPages.Accepts (newPages "2026-01-01T00:00:00.000Z")
      (memoryMoment, .putPage secretsOperator "secrets" (some (.obj secretReference))) := by
  unfold PageStore.Accepts PageStore.handle
  dsimp only
  rw [checkPut_secretReference]
  exact ⟨_, rfl⟩

private theorem secretReference_inTables :
    (postgresPages ColumnTypes.verbatim).Accepts emptyControlState
      (tablesMoment, .putPage secretsOperator "secrets" (some (.obj secretReference))) := by
  unfold PageStore.Accepts PageStore.handle
  dsimp only
  rw [checkPut_secretReference]
  exact ⟨_, rfl⟩

theorem secretsPage_readBack_of_reference :
    (inMemoryPages.answer (run inMemoryPages.step (newPages "2026-01-01T00:00:00.000Z")
        [(memoryMoment, .putPage secretsOperator "secrets" (some (.obj secretReference)))])
        (memoryMoment, .getSecrets)).status = 200 ∧
      (∃ data, ((postgresPages ColumnTypes.verbatim).answer
        (run (postgresPages ColumnTypes.verbatim).step emptyControlState
          [(tablesMoment, .putPage secretsOperator "secrets" (some (.obj secretReference)))])
          (tablesMoment, .getPage "secrets")).body.property "data" = some data ∧
        data.document = (Json.obj secretReference).document) ∧
      SecretsRedacted (inMemoryPages.answer (newPages "2026-01-01T00:00:00.000Z")
        (memoryMoment, .getSecrets)).body := by
  obtain ⟨memory, tables, redacted⟩ := secretsPage_readBack_and_redacted
  refine ⟨?_, ?_, redacted inMemoryPages _ memoryMoment .getSecrets (.inl trivial)⟩
  · exact (memory _ _ _ _ [] (memoryMoment, .getSecrets) secretReference_inMemory
      (fun _ none => nomatch none) trivial).1
  · have keepsObjects : KeepsObjects ColumnTypes.verbatim := fun fields stored accepted =>
      DocumentColumns.verbatim.jsonb_document accepted
    exact tables _ keepsObjects _ _ _ _ [] (tablesMoment, .getPage "secrets")
      secretReference_inTables (fun _ none => nomatch none) rfl ⟨_, rfl⟩

/-- A number too large for the language is read back as `null`. -/
theorem secretsPage_infinity_readBack_null :
    inMemoryPages.Accepts (newPages "2026-01-01T00:00:00.000Z")
        (memoryMoment, .putPage secretsOperator "secrets" (some endlessRotation)) ∧
      (inMemoryPages.answer (run inMemoryPages.step (newPages "2026-01-01T00:00:00.000Z")
        [(memoryMoment, .putPage secretsOperator "secrets" (some endlessRotation))])
        (memoryMoment, .getSecrets)).body.property "data" =
          some (.obj [("days", .null)]) ∧
      endlessRotation ≠ .obj [("days", .null)] := by
  refine ⟨?_, ?_, ?_⟩
  · have accepted : checkPut secretsOperator "secrets" (some endlessRotation) =
        .ok .secrets := by
      decide +kernel
    unfold PageStore.Accepts PageStore.handle
    dsimp only
    rw [accepted]
    exact ⟨_, rfl⟩
  · decide +kernel
  · decide

end Example

end PlatformArchitecture.ControlApi
