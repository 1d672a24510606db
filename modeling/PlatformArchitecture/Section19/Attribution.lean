import PlatformArchitecture.Section19.Effects

/-!
# Who created and who approved a change

The store of the `/platform` routes is run together with two records: the
operator whose request first stored each change, and the operators seen so far.
A change keeps the names of its creator and of a second operator as long as no
create request forges the fields that the route means to supply.
-/

namespace PlatformArchitecture.Section19

open PlatformArchitecture.ControlApi
open PlatformArchitecture.Foundations

/-! ## The records of a run -/

/-- The store, the creator of each change and the operators seen so far. -/
structure AttributedState where
  store : PlatformState
  creators : List (String × String)
  operators : List String

def attributedStart (configs : List ConfigurationVersion) : AttributedState :=
  { store := platformStart configs
    creators := []
    operators := [] }

/-- The changes that a request stored for the first time are its operator's. -/
def recordCreators (before after : PlatformState) (userId : String)
    (creators : List (String × String)) : List (String × String) :=
  (after.changes.filter fun row => (before.change row.changeId).isNone).map
      (fun row => (row.changeId, userId)) ++
    creators

def attributedStep (columns : ChangeColumns) (environment : String)
    (state : AttributedState) (served : PlatformServed) : AttributedState :=
  let after := servePlatform columns environment state.store served
  { store := after
    creators := recordCreators state.store after served.userId state.creators
    operators := served.userId :: state.operators }

/-- The change is its creator's, and an operator other than its creator
approved it if it is approved in production. -/
def AttributedRow (state : AttributedState) (row : PlatformChange) : Prop :=
  ∃ creator ∈ state.operators,
    state.creators.lookup row.changeId = some creator ∧ row.requestedBy = creator ∧
      (row.environment = "production" → row.status ∈ ["APPROVED", "PROVISIONING"] →
        ∃ approver ∈ state.operators, row.approvedBy = some approver ∧ approver ≠ creator)

/-- What a create request, or the first write of a change, stores is a draft of
the operator who made the request. -/
def StoredAsDraft (columns : ChangeColumns) (environment : String)
    (state : AttributedState) (served : PlatformServed) : Prop :=
  ∀ row ∈ (servePlatform columns environment state.store served).changes,
    row ∉ state.store.changes →
    (served.request.created.isSome ∨ state.store.change row.changeId = none) →
      row.status = "DRAFT" ∧ row.requestedBy = served.userId ∧ row.approvedBy = none

/-! ## The condition -/

/-- The fields of a body do not contradict the status, requestor and approver
of a new change, and its id is not that of a change someone else requested. -/
structure Unforged (columns : ChangeColumns) (context : PlatformContext)
    (state : PlatformState) (fields : JsObject) : Prop where
  status : ∀ text ∈ (bound "status" fields).bind columns.textColumn, text = "DRAFT"
  requestedBy : ∀ text ∈ (bound "requestedBy" fields).bind columns.textColumn,
    text = context.operator.userId
  approvedBy : bound "approvedBy" fields = none
  changeId : ∀ id ∈ (bound "changeId"
        (spread [("changeId", .str context.randomId)] fields)).bind columns.uuidColumn,
    ∀ stored ∈ state.change id, stored.requestedBy = context.operator.userId

instance (columns : ChangeColumns) (context : PlatformContext) (state : PlatformState)
    (fields : JsObject) : Decidable (Unforged columns context state fields) :=
  decidable_of_iff
    ((∀ text ∈ (bound "status" fields).bind columns.textColumn, text = "DRAFT") ∧
      (∀ text ∈ (bound "requestedBy" fields).bind columns.textColumn,
        text = context.operator.userId) ∧
      bound "approvedBy" fields = none ∧
      ∀ id ∈ (bound "changeId"
            (spread [("changeId", .str context.randomId)] fields)).bind columns.uuidColumn,
        ∀ stored ∈ state.change id, stored.requestedBy = context.operator.userId)
    ⟨fun ⟨status, requestedBy, approvedBy, changeId⟩ =>
        ⟨status, requestedBy, approvedBy, changeId⟩,
      fun ⟨status, requestedBy, approvedBy, changeId⟩ =>
        ⟨status, requestedBy, approvedBy, changeId⟩⟩

/-- A create request is refused, by the service or by the columns, or forges
nothing. -/
def CreatesUnforged (columns : ChangeColumns) (environment : String)
    (state : AttributedState) (served : PlatformServed) : Prop :=
  ∀ body ∈ served.request.created,
    (spreadable body).lookup "riskLevel" = some (.str "LOCKED") ∨
      state.store.insertable columns
          (ControlPlaneService.newChange served.context
            (createInput environment served.context body)) = none ∨
      Unforged columns served.context state.store (spreadable body)

instance (columns : ChangeColumns) (environment : String) (state : AttributedState)
    (served : PlatformServed) : Decidable (CreatesUnforged columns environment state served) :=
  inferInstanceAs (Decidable (∀ body ∈ served.request.created, _ ∨ _ ∨ _))

/-! ## The row of a create request -/

section Created

variable {columns : ChangeColumns} {environment : String} {context : PlatformContext}
  {state : PlatformState} {body : Option Json} {row : PlatformChange}

/-- A create request that is not refused forges nothing. -/
theorem unforged_of_accepted {state : AttributedState} {deliveries : List Delivery}
    (unforged :
      CreatesUnforged columns environment state ⟨context, .create body, deliveries⟩)
    (unlocked : (spreadable body).lookup "riskLevel" ≠ some (.str "LOCKED"))
    (accepted : state.store.insertable columns
      (ControlPlaneService.newChange context (createInput environment context body)) =
        some row) :
    Unforged columns context state.store (spreadable body) := by
  rcases unforged body rfl with locked | refused | holds
  · exact absurd locked unlocked
  · rw [accepted] at refused
    cases refused
  · exact holds

/-- What an accepted create request saves, under the condition. -/
theorem created_row (unforged : Unforged columns context state (spreadable body))
    (accepted : state.insertable columns
      (ControlPlaneService.newChange context (createInput environment context body)) =
        some row) :
    row.status = "DRAFT" ∧ row.requestedBy = context.operator.userId ∧
      row.approvedBy = none ∧
      ∀ stored ∈ state.change row.changeId,
        stored.requestedBy = context.operator.userId := by
  have created := createdFrom_of_insertable accepted
  refine ⟨?_, ?_, ?_, ?_⟩
  · have written := created.status
    split at written
    · exact written
    · exact unforged.status row.status written
  · have written := created.requestedBy
    split at written
    · exact written
    · exact unforged.requestedBy row.requestedBy written
  · exact created.approvedBy unforged.approvedBy
  · exact unforged.changeId row.changeId created.changeId

end Created

/-! ## Lookups in the records -/

section Records

variable {before after : PlatformState} {userId changeId : String}
  {creators : List (String × String)}

theorem lookup_recordCreators_stored {stored : PlatformChange}
    (isStored : before.change changeId = some stored) :
    (recordCreators before after userId creators).lookup changeId =
      creators.lookup changeId := by
  unfold recordCreators
  rw [List.lookup_append]
  have notNew : List.lookup changeId
      ((after.changes.filter fun row => (before.change row.changeId).isNone).map
        fun row => (row.changeId, userId)) = none := by
    rw [List.lookup_eq_none_iff]
    intro entry member
    obtain ⟨row, isNew, rfl⟩ := List.mem_map.mp member
    have absent := (List.mem_filter.mp isNew).2
    simp only [bne_iff_ne, ne_eq]
    rintro rfl
    rw [isStored] at absent
    cases absent
  rw [notNew, Option.none_or]

theorem lookup_recordCreators_new {row : PlatformChange} (member : row ∈ after.changes)
    (absent : before.change row.changeId = none) :
    (recordCreators before after userId creators).lookup row.changeId = some userId := by
  unfold recordCreators
  rw [List.lookup_append]
  have isNew : row ∈ after.changes.filter fun row => (before.change row.changeId).isNone :=
    List.mem_filter.mpr ⟨member, by simp [absent]⟩
  have found : List.lookup row.changeId
      ((after.changes.filter fun row => (before.change row.changeId).isNone).map
        fun row => (row.changeId, userId)) = some userId := by
    generalize (after.changes.filter fun row => (before.change row.changeId).isNone) = rows
      at isNew
    induction rows with
    | nil => cases isNew
    | cons first rest inductionHypothesis =>
        rw [List.map_cons, List.lookup_cons]
        by_cases same : row.changeId = first.changeId
        · simp [same]
        · have unequal : (row.changeId == first.changeId) = false := by simpa using same
          rw [unequal]
          apply inductionHypothesis
          rcases List.mem_cons.mp isNew with rfl | later
          · exact absurd rfl same
          · exact later
  rw [found, Option.some_or]

end Records

/-! ## One request -/

section Step

variable {columns : ChangeColumns} {environment : String} {context : PlatformContext}
  {deliveries : List Delivery} {request : PlatformRequest} {state : AttributedState}
  {row stored : PlatformChange} {next : ChangeState}

/-- What is known of a stored change carries over to the row that replaces it
or leaves it, apart from its approval. -/
theorem AttributedRow.carry (attributed : AttributedRow state stored)
    (isStored : state.store.change stored.changeId = some stored)
    (sameId : row.changeId = stored.changeId)
    (sameRequestor : row.requestedBy = stored.requestedBy)
    (approval : row.environment = "production" → row.status ∈ ["APPROVED", "PROVISIONING"] →
      ∃ approver ∈ context.operator.userId :: state.operators,
        row.approvedBy = some approver ∧ approver ≠ stored.requestedBy) :
    AttributedRow (attributedStep columns environment state ⟨context, request, deliveries⟩)
      row := by
  obtain ⟨creator, known, recorded, rfl, -⟩ := attributed
  refine ⟨stored.requestedBy, List.mem_cons_of_mem _ known, ?_, sameRequestor, approval⟩
  rw [sameId]
  exact (lookup_recordCreators_stored isStored).trans recorded

theorem AttributedRow.kept (attributed : AttributedRow state row)
    (member : row ∈ state.store.changes) :
    AttributedRow (attributedStep columns environment state ⟨context, request, deliveries⟩)
      row := by
  obtain ⟨creator, known, recorded, requestor, approval⟩ := attributed
  obtain ⟨found, isFound⟩ : ∃ found, state.store.change row.changeId = some found :=
    exists_findRow_of_mem member
  refine ⟨creator, List.mem_cons_of_mem _ known, ?_, requestor, ?_⟩
  · exact (lookup_recordCreators_stored isFound).trans recorded
  · intro production approved
    obtain ⟨approver, seen, rest⟩ := approval production approved
    exact ⟨approver, List.mem_cons_of_mem _ seen, rest⟩

/-- Only an approval leads to provisioning. -/
theorem approved_of_provisioning {state : ChangeState}
    (moves : .provisioning ∈ state.forward) : state = .approved := by
  revert moves
  cases state <;> decide

/-- A transition keeps the attribution: an approval is by another operator, and
provisioning starts from an approved change. -/
theorem AttributedRow.moved (attributed : AttributedRow state stored)
    (transitions :
      Transitions columns environment context request state.store stored next)
    (isStored : state.store.change row.changeId = some stored)
    (status : row.status = next.text)
    (approvedBy : row.approvedBy =
      if next = .approved then some context.operator.userId else stored.approvedBy) :
    AttributedRow (attributedStep columns environment state ⟨context, request, deliveries⟩)
      (stored.updatedTo row) := by
  have key : stored.changeId = row.changeId := key_of_findRow isStored
  rw [← key] at isStored
  refine attributed.carry isStored rfl rfl ?_
  intro production settled
  obtain ⟨⟨current, isCurrent, allowed⟩, separate⟩ := checkTransition_ok transitions.checked
  have sameStatus : (stored.updatedTo row).status = next.text := status
  have sameApprover : (stored.updatedTo row).approvedBy = row.approvedBy := rfl
  rw [sameApprover, approvedBy]
  by_cases approves : next = .approved
  · rw [if_pos approves]
    exact
      ⟨context.operator.userId, List.mem_cons_self, rfl, separate approves production⟩
  · rw [if_neg approves]
    have provisioning : next = .provisioning := by
      rw [sameStatus] at settled
      revert approves settled
      cases next <;> decide
    subst next
    have wasApproved : stored.status = "APPROVED" := by
      rw [approved_of_provisioning allowed] at isCurrent
      exact isCurrent.symm
    obtain ⟨creator, -, -, rfl, approval⟩ := attributed
    obtain ⟨approver, seen, named, other⟩ := approval production (by simp [wasApproved])
    exact ⟨approver, List.mem_cons_of_mem _ seen, named, other⟩

theorem draft_not_settled {status : String} (draft : status = "DRAFT") :
    status ∉ ["APPROVED", "PROVISIONING"] := by
  rw [draft]
  decide

/-- One request keeps the attribution of every stored change. -/
theorem attributedStep_attributed (state : AttributedState) (served : PlatformServed)
    (attributed : ∀ row ∈ state.store.changes, AttributedRow state row)
    (unforged : CreatesUnforged columns environment state served) :
    ∀ row ∈ (attributedStep columns environment state served).store.changes,
      AttributedRow (attributedStep columns environment state served) row := by
  obtain ⟨context, request, deliveries⟩ := served
  intro row member
  cases rowOrigin_of_served member with
  | kept stored => exact (attributed row stored).kept stored
  | inserted unlocked accepted absent =>
      have holds := unforged_of_accepted unforged unlocked accepted
      obtain ⟨draft, requestor, -, -⟩ := created_row holds accepted
      refine ⟨context.operator.userId, List.mem_cons_self, ?_, requestor, ?_⟩
      · exact lookup_recordCreators_new member absent
      · intro _ settled
        exact absurd settled (draft_not_settled draft)
  | @overwritten _ stored saved unlocked accepted found =>
      have holds := unforged_of_accepted unforged unlocked accepted
      obtain ⟨draft, -, -, -⟩ := created_row holds accepted
      have key : stored.changeId = saved.changeId := key_of_findRow found
      have isStored : state.store.change stored.changeId = some stored := by
        rw [key]
        exact found
      refine (attributed stored (mem_of_findRow found)).carry isStored rfl rfl ?_
      intro _ settled
      exact absurd settled (draft_not_settled draft)
  | @moved _ stored saved next transitions found status approvedBy =>
      exact (attributed stored (mem_of_findRow found)).moved transitions found status approvedBy

/-- One request stores new changes as drafts of its operator. -/
theorem attributedStep_storedAsDraft (state : AttributedState) (served : PlatformServed)
    (unforged : CreatesUnforged columns environment state served) :
    StoredAsDraft columns environment state served := by
  obtain ⟨context, request, deliveries⟩ := served
  intro row member fresh isNew
  cases rowOrigin_of_served member with
  | kept stored => exact absurd stored fresh
  | inserted unlocked accepted absent =>
      have holds := unforged_of_accepted unforged unlocked accepted
      obtain ⟨draft, requestor, noApprover, -⟩ := created_row holds accepted
      exact ⟨draft, requestor, noApprover⟩
  | @overwritten _ stored _ unlocked accepted found =>
      have holds := unforged_of_accepted unforged unlocked accepted
      obtain ⟨draft, -, noApprover, ofRequestor⟩ := created_row holds accepted
      exact ⟨draft, ofRequestor stored found, noApprover⟩
  | @moved _ stored saved next transitions found =>
      exfalso
      rcases isNew with isCreate | absent
      · obtain ⟨id, asked, -⟩ := transitions.asked
        cases request <;>
          simp [PlatformRequest.created, PlatformRequest.transition] at isCreate asked
      · have key : stored.changeId = saved.changeId := key_of_findRow found
        have stillAbsent : state.store.change stored.changeId = none := absent
        rw [key, found] at stillAbsent
        cases stillAbsent

end Step

/-- In every run whose create requests forge nothing, every change is stored as
a draft of its creator, and a production change that is approved or being
provisioned was approved by another operator. -/
theorem changesAttributed_of_unforged (columns : ChangeColumns) (environment : String)
    (configs : List ConfigurationVersion) (requests : List PlatformServed)
    (unforged : EveryStep (attributedStep columns environment)
      (CreatesUnforged columns environment) (attributedStart configs) requests) :
    let final := run (attributedStep columns environment) (attributedStart configs) requests
    (∀ row ∈ final.store.changes, AttributedRow final row) ∧
      EveryStep (attributedStep columns environment) (StoredAsDraft columns environment)
        (attributedStart configs) requests := by
  have empty : ∀ row ∈ (attributedStart configs).store.changes,
      AttributedRow (attributedStart configs) row := by
    intro row member
    cases member
  exact
    ⟨run_invariant attributedStep_attributed empty unforged,
      everyStep_of_invariant attributedStep_attributed
        (fun state served _ meets => attributedStep_storedAsDraft state served meets)
        empty unforged⟩

private def changeId : String :=
  "3f0c7a52-5b0e-4a7e-8f7e-6f1f0c9e2d10"

private def requestBy (userId : String) (request : PlatformRequest) : PlatformServed :=
  .answered userId ["platform:write"] changeId request

private def emailBody : JsObject :=
  [("capability", .str "email"), ("oldState", .obj []), ("desiredState", .obj []),
    ("riskLevel", .str "GREEN")]

/-- A change that one operator creates and another approves. -/
private def approvedBySecond : List PlatformServed :=
  [requestBy "requestor" (.create (some (.obj emailBody))),
    requestBy "requestor" (.validate changeId none),
    requestBy "requestor" (.plan changeId),
    requestBy "approver" (.approve changeId),
    requestBy "requestor" (.apply changeId)]

theorem secondOperatorApproves :
    let final := run (attributedStep .verbatim "production") (attributedStart [])
      approvedBySecond
    (∀ row ∈ final.store.changes, AttributedRow final row) ∧
      EveryStep (attributedStep .verbatim "production") (StoredAsDraft .verbatim "production")
        (attributedStart []) approvedBySecond :=
  changesAttributed_of_unforged .verbatim "production" [] approvedBySecond (by decide)

/-- A body that brings its own status and approver is stored as it is. -/
theorem forgedApprovalStored :
    ¬ ∀ (columns : ChangeColumns) (environment : String)
        (configs : List ConfigurationVersion) (requests : List PlatformServed),
        let final := run (attributedStep columns environment) (attributedStart configs)
          requests
        (∀ row ∈ final.store.changes, AttributedRow final row) ∧
          EveryStep (attributedStep columns environment) (StoredAsDraft columns environment)
            (attributedStart configs) requests := by
  intro attributesAll
  let forged : JsObject :=
    [("status", .str "APPROVED"), ("approvedBy", .str "nobody")] ++ emailBody
  let requests := [requestBy "requestor" (.create (some (.obj forged)))]
  let final := run (attributedStep .verbatim "production") (attributedStart []) requests
  have attributed := (attributesAll .verbatim "production" [] requests).1
  have approved : ∃ row ∈ final.store.changes,
      row.environment = "production" ∧ row.status ∈ ["APPROVED", "PROVISIONING"] ∧
        row.approvedBy = some "nobody" := by
    decide
  have stranger : "nobody" ∉ final.operators := by
    decide
  obtain ⟨row, member, production, settled, byNobody⟩ := approved
  obtain ⟨creator, -, -, -, approval⟩ := attributed row member
  obtain ⟨approver, seen, named, -⟩ := approval production settled
  rw [byNobody] at named
  cases named
  exact stranger seen

end PlatformArchitecture.Section19
