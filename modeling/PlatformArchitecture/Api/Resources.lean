import PlatformArchitecture.Foundations.Concurrent
import PlatformArchitecture.Security.TenantContext

/-!
# Idempotent creation of resources

`POST /v1/resources` answers a repeated request with the stored response.  The
key of the response joins the tenant, the workspace and the header, and the
statements of any number of requests interleave over one store.
-/

namespace PlatformArchitecture.Api

open PlatformArchitecture.Foundations
open PlatformArchitecture.Security

structure ApiError where
  statusCode : Nat
  code : String
  message : String
  deriving DecidableEq

/-- What the error handler answers for an error without a status of its own. -/
def ApiError.internal : ApiError :=
  ⟨500, "INTERNAL_ERROR", "An internal error occurred"⟩

structure Resource where
  id : String
  tenantId : String
  name : String
  deriving DecidableEq

/-- `IdempotentResponse`; the body is stored as the JSON text of the resource. -/
structure IdempotentResponse where
  status : Nat
  body : Resource
  deriving DecidableEq

/-! ## The store -/

/-- The calls of `ApiIdempotencyStore` on its port. -/
inductive IdempotencyStatement where
  | get (key : String)
  | putIfAbsent (key : String) (response : IdempotentResponse)

abbrev IdempotencyStatement.Reply : IdempotencyStatement → Type
  | .get _ => Option IdempotentResponse
  | .putIfAbsent _ _ => Bool

/-- The records of the port, none of which has expired. -/
abbrev IdempotencyRecords :=
  String → Option IdempotentResponse

def executeIdempotency : (statement : IdempotencyStatement) → IdempotencyRecords →
    statement.Reply × IdempotencyRecords
  | .get key, records => (records key, records)
  | .putIfAbsent key response, records =>
      match records key with
      | some _ => (false, records)
      | none => (true, Function.update records key (some response))

def idempotencyDatabase :
    Database IdempotencyRecords IdempotencyStatement IdempotencyStatement.Reply ApiError where
  execute statement records := .ok (executeIdempotency statement records)
  disconnected := .internal

abbrev IdempotencyProgram :=
  Program IdempotencyStatement IdempotencyStatement.Reply ApiError

/-- Await a call of the port. -/
abbrev awaitPort (statement : IdempotencyStatement) : IdempotencyProgram statement.Reply :=
  Program.call statement

namespace ApiIdempotencyStore

def get (key : String) : IdempotencyProgram (Option IdempotentResponse) :=
  awaitPort (.get key)

def putIfAbsent (key : String) (status : Nat) (body : Resource) : IdempotencyProgram Bool :=
  awaitPort (.putIfAbsent key ⟨status, body⟩)

def commitOrRead (key : String) (status : Nat) (body : Resource) :
    IdempotencyProgram IdempotentResponse := do
  if ← putIfAbsent key status body then
    return ⟨status, body⟩
  else
    match ← get key with
    | some winner => return winner
    | none =>
        throw ⟨409, "IDEMPOTENCY_CONFLICT",
          "Idempotency key was concurrently committed but its response is unavailable"⟩

end ApiIdempotencyStore

/-! ## The route -/

/-- A request of an authenticated caller. -/
structure ResourceRequest where
  tenant : TenantScope
  idempotencyKey : String
  name : String
  deriving DecidableEq

namespace ResourceRequest

/-- The schema of the header and the body. -/
def Admitted (request : ResourceRequest) : Prop :=
  8 ≤ request.idempotencyKey.length ∧ request.idempotencyKey.length ≤ 200 ∧
    1 ≤ request.name.length ∧ request.name.length ≤ 200

instance (request : ResourceRequest) : Decidable request.Admitted :=
  inferInstanceAs (Decidable (_ ∧ _ ∧ _ ∧ _))

def key (request : ResourceRequest) : String :=
  request.tenant.tenantId ++ ":" ++ request.tenant.workspace ++ ":" ++ request.idempotencyKey

/-- What the response of a request should depend on. -/
def triple (request : ResourceRequest) : TenantScope × String :=
  (request.tenant, request.idempotencyKey)

def candidate (request : ResourceRequest) (id : String) : Resource where
  id := id
  tenantId := request.tenant.tenantId
  name := request.name

end ResourceRequest

/-- The handler of `POST /v1/resources`, with the id it would draw. -/
def postResource (request : ResourceRequest) (id : String) :
    IdempotencyProgram IdempotentResponse :=
  if request.Admitted then do
    match ← ApiIdempotencyStore.get request.key with
    | some cached => return cached
    | none => ApiIdempotencyStore.commitOrRead request.key 201 (request.candidate id)
  else
    throw ⟨400, "VALIDATION_ERROR", "Request validation failed"⟩

/-- Any number of requests; no two of them draw the same id. -/
structure ResourceRequests (Pid : Type) where
  request : Pid → ResourceRequest
  randomUUID : Pid → String
  distinct : Function.Injective randomUUID

section Requests

variable {Pid : Type}

abbrev ResourceWorld (Pid : Type) :=
  World Pid IdempotencyRecords IdempotencyStatement IdempotencyStatement.Reply ApiError
    IdempotentResponse

namespace ResourceRequests

variable (requests : ResourceRequests Pid)

/-- The response a request stores if it comes first. -/
def created (pid : Pid) : IdempotentResponse :=
  ⟨201, (requests.request pid).candidate (requests.randomUUID pid)⟩

/-- The requests before their first statement, over an empty store. -/
def start : ResourceWorld Pid :=
  World.start (fun _ => none) fun pid =>
    postResource (requests.request pid) (requests.randomUUID pid)

def runEvents [DecidableEq Pid] (events : List (Event Pid Delivery)) : ResourceWorld Pid :=
  run (World.step idempotencyDatabase.server) requests.start events

/-- The responses so far are idempotent, and none carries a resource of another
triple. -/
structure Idempotent (world : ResourceWorld Pid) : Prop where
  sameResponse : ∀ first second response other,
    (requests.request first).triple = (requests.request second).triple →
    world.returned first = some response → world.returned second = some other →
      response = other
  ownResource : ∀ pid response creator,
    world.returned pid = some response → response.body.id = requests.randomUUID creator →
      (requests.request creator).triple = (requests.request pid).triple

/-- Admitted requests with one key have one triple. -/
def KeysSeparate : Prop :=
  ∀ first second, (requests.request first).Admitted → (requests.request second).Admitted →
    (requests.request first).key = (requests.request second).key →
      (requests.request first).triple = (requests.request second).triple

end ResourceRequests

/-! ## The stages of a request -/

/-- What is left of a request once its key has been looked up. -/
def afterLookup (key : String) (candidate : Resource) :
    Option IdempotentResponse → IdempotencyProgram IdempotentResponse
  | some cached => Program.done cached
  | none => ApiIdempotencyStore.commitOrRead key 201 candidate

/-- What is left once another request has won. -/
def afterWinner : Option IdempotentResponse → IdempotencyProgram IdempotentResponse
  | some winner => Program.done winner
  | none =>
      Program.fail
        ⟨409, "IDEMPOTENCY_CONFLICT",
          "Idempotency key was concurrently committed but its response is unavailable"⟩

def readWinner (key : String) : IdempotencyProgram IdempotentResponse :=
  Program.branch (.get key) afterWinner Program.fail

inductive ResourceStage where
  | lookingUp
  | committing
  | readingWinner
  | answered (response : IdempotentResponse)
  | failed (error : ApiError)

section Stages

variable (requests : ResourceRequests Pid) (pid : Pid)

def ResourceStage.program : ResourceStage → IdempotencyProgram IdempotentResponse
  | .lookingUp =>
      Program.branch (.get (requests.request pid).key)
        (afterLookup (requests.request pid).key (requests.created pid).body) Program.fail
  | .committing =>
      Program.branch (.putIfAbsent (requests.request pid).key (requests.created pid))
        (fun committed : Bool =>
          if committed then Program.done (requests.created pid)
          else readWinner (requests.request pid).key)
        Program.fail
  | .readingWinner => readWinner (requests.request pid).key
  | .answered response => Program.done response
  | .failed error => Program.fail error

/-- What a request relies on at a stage. -/
def ResourceStage.Holds (records : IdempotencyRecords) : ResourceStage → Prop
  | .lookingUp | .committing => (requests.request pid).Admitted
  | .readingWinner =>
      (requests.request pid).Admitted ∧
        ∃ winner, records (requests.request pid).key = some winner
  | .answered response =>
      (requests.request pid).Admitted ∧ records (requests.request pid).key = some response
  | .failed _ => True

def AtResourceStage (records : IdempotencyRecords)
    (program : IdempotencyProgram IdempotentResponse) : Prop :=
  ∃ stage : ResourceStage,
    program = stage.program requests pid ∧ stage.Holds requests pid records

/-- Every record was created by an admitted request with its key. -/
def RecordsCreated (records : IdempotencyRecords) : Prop :=
  ∀ key response, records key = some response →
    ∃ creator, (requests.request creator).Admitted ∧
      (requests.request creator).key = key ∧ response = requests.created creator

theorem get_bind (key : String)
    (rest : Option IdempotentResponse → IdempotencyProgram IdempotentResponse) :
    (ApiIdempotencyStore.get key >>= rest) =
      Program.branch (.get key) rest Program.fail :=
  @Program.call_bind IdempotencyStatement ApiError _ IdempotencyStatement.Reply (.get key) rest

theorem putIfAbsent_bind (key : String) (status : Nat) (body : Resource)
    (rest : Bool → IdempotencyProgram IdempotentResponse) :
    (ApiIdempotencyStore.putIfAbsent key status body >>= rest) =
      Program.branch (.putIfAbsent key ⟨status, body⟩) rest Program.fail :=
  @Program.call_bind IdempotencyStatement ApiError _ IdempotencyStatement.Reply
    (.putIfAbsent key ⟨status, body⟩) rest

theorem postResource_admitted (admitted : (requests.request pid).Admitted) :
    postResource (requests.request pid) (requests.randomUUID pid) =
      ResourceStage.program requests pid .lookingUp := by
  unfold postResource
  rw [if_pos admitted, get_bind]
  rfl

theorem postResource_stage :
    AtResourceStage requests pid (fun _ => none)
      (postResource (requests.request pid) (requests.randomUUID pid)) := by
  by_cases admitted : (requests.request pid).Admitted
  · exact ⟨.lookingUp, postResource_admitted requests pid admitted, admitted⟩
  · unfold postResource
    rw [if_neg admitted]
    exact ⟨.failed _, rfl, trivial⟩

theorem afterLookup_none :
    afterLookup (requests.request pid).key (requests.created pid).body none =
      ResourceStage.program requests pid .committing := by
  unfold afterLookup ApiIdempotencyStore.commitOrRead
  dsimp only
  rw [putIfAbsent_bind]
  unfold ResourceStage.program
  congr 1
  funext committed
  cases committed with
  | true => rfl
  | false =>
      simp only [Bool.false_eq_true, if_false]
      rw [get_bind]
      rfl

end Stages

/-! ## What a statement does -/

section Statements

variable {requests : ResourceRequests Pid} {pid : Pid} {delivery : Delivery} {key : String}
  {records after : IdempotencyRecords}

theorem server_get {reply : Except ApiError (Option IdempotentResponse)}
    (outcome : idempotencyDatabase.server.outcome pid delivery (.get key) records =
      some (reply, after)) :
    after = records ∧ ((∃ error, reply = .error error) ∨ reply = .ok (records key)) := by
  cases delivery <;> cases outcome
  · exact ⟨rfl, Or.inr rfl⟩
  · exact ⟨rfl, Or.inl ⟨_, rfl⟩⟩
  · exact ⟨rfl, Or.inl ⟨_, rfl⟩⟩

/-- A commit fails before it takes effect, loses against a stored record, or
stores its own, possibly unacknowledged. -/
theorem server_putIfAbsent {response : IdempotentResponse} {reply : Except ApiError Bool}
    (outcome : idempotencyDatabase.server.outcome pid delivery (.putIfAbsent key response)
      records = some (reply, after)) :
    (after = records ∧ ∃ error, reply = .error error) ∨
      (after = records ∧ reply = .ok false ∧ ∃ winner, records key = some winner) ∨
      (after = Function.update records key (some response) ∧ records key = none ∧
        ((∃ error, reply = .error error) ∨ reply = .ok true)) := by
  cases held : records key with
  | some winner =>
      have executed : executeIdempotency (.putIfAbsent key response) records =
          (false, records) := by
        simp only [executeIdempotency, held]
      cases delivery <;> simp only [Database.server, Database.attempt, idempotencyDatabase,
        executed, Option.some.injEq, Prod.mk.injEq] at outcome
      · exact Or.inr (Or.inl ⟨outcome.2.symm, outcome.1.symm, winner, rfl⟩)
      · exact Or.inl ⟨outcome.2.symm, _, outcome.1.symm⟩
      · exact Or.inl ⟨outcome.2.symm, _, outcome.1.symm⟩
  | none =>
      have executed : executeIdempotency (.putIfAbsent key response) records =
          (true, Function.update records key (some response)) := by
        simp only [executeIdempotency, held]
      cases delivery <;> simp only [Database.server, Database.attempt, idempotencyDatabase,
        executed, Option.some.injEq, Prod.mk.injEq] at outcome
      · exact Or.inr (Or.inr ⟨outcome.2.symm, rfl, Or.inr outcome.1.symm⟩)
      · exact Or.inl ⟨outcome.2.symm, _, outcome.1.symm⟩
      · exact Or.inr (Or.inr ⟨outcome.2.symm, rfl, Or.inl ⟨_, outcome.1.symm⟩⟩)

/-- Records are never changed. -/
def RecordsKept (records after : IdempotencyRecords) : Prop :=
  ∀ key response, records key = some response → after key = some response

theorem recordsKept_update {response : IdempotentResponse} (absent : records key = none) :
    RecordsKept records (Function.update records key (some response)) := by
  intro other held isHeld
  by_cases same : other = key
  · rw [same, absent] at isHeld
    cases isHeld
  · rw [Function.update_of_ne same]
    exact isHeld

theorem AtResourceStage.frame (kept : RecordsKept records after)
    {program : IdempotencyProgram IdempotentResponse}
    (standing : AtResourceStage requests pid records program) :
    AtResourceStage requests pid after program := by
  obtain ⟨stage, same, facts⟩ := standing
  refine ⟨stage, same, ?_⟩
  cases stage with
  | lookingUp | committing | failed => exact facts
  | readingWinner =>
      obtain ⟨admitted, winner, isWinner⟩ := facts
      exact ⟨admitted, winner, kept _ winner isWinner⟩
  | answered response => exact ⟨facts.1, kept _ response facts.2⟩

theorem RecordsCreated.commit (created : RecordsCreated requests records)
    (admitted : (requests.request pid).Admitted) :
    RecordsCreated requests
      (Function.update records (requests.request pid).key (some (requests.created pid))) := by
  intro other response isRecord
  by_cases same : other = (requests.request pid).key
  · rw [same, Function.update_self] at isRecord
    exact ⟨pid, admitted, same.symm, (Option.some.inj isRecord).symm⟩
  · rw [Function.update_of_ne same] at isRecord
    exact created other response isRecord

/-- A statement of a request leads it to its next stage and keeps the
records. -/
theorem AtResourceStage.advance {statement : IdempotencyStatement}
    {next : Except ApiError statement.Reply → IdempotencyProgram IdempotentResponse}
    {reply : Except ApiError statement.Reply}
    (standing : AtResourceStage requests pid records (.perform statement next))
    (created : RecordsCreated requests records)
    (outcome : idempotencyDatabase.server.outcome pid delivery statement records =
      some (reply, after)) :
    RecordsCreated requests after ∧ AtResourceStage requests pid after (next reply) ∧
      RecordsKept records after := by
  obtain ⟨stage, same, facts⟩ := standing
  cases stage with
  | answered | failed => cases same
  | lookingUp =>
      cases same
      obtain ⟨unchanged, failed | read⟩ := server_get outcome
      · obtain ⟨error, isError⟩ := failed
        subst unchanged isError
        exact ⟨created, ⟨.failed error, rfl, trivial⟩, fun _ _ held => held⟩
      · subst unchanged read
        refine ⟨created, ?_, fun _ _ held => held⟩
        dsimp only
        cases held : after (requests.request pid).key with
        | some cached => exact ⟨.answered cached, rfl, facts, held⟩
        | none => exact ⟨.committing, afterLookup_none requests pid, facts⟩
  | committing =>
      cases same
      obtain failed | lost | won := server_putIfAbsent outcome
      · obtain ⟨unchanged, error, isError⟩ := failed
        subst unchanged isError
        exact ⟨created, ⟨.failed error, rfl, trivial⟩, fun _ _ held => held⟩
      · obtain ⟨unchanged, isFalse, winner⟩ := lost
        subst unchanged isFalse
        exact ⟨created, ⟨.readingWinner, rfl, facts, winner⟩, fun _ _ held => held⟩
      · obtain ⟨stored, absent, replied⟩ := won
        subst stored
        refine ⟨created.commit facts, ?_, recordsKept_update absent⟩
        cases replied with
        | inl failed =>
            obtain ⟨error, isError⟩ := failed
            subst isError
            exact ⟨.failed error, rfl, trivial⟩
        | inr isTrue =>
            subst isTrue
            exact ⟨.answered (requests.created pid), rfl, facts, Function.update_self _ _ _⟩
  | readingWinner =>
      cases same
      obtain ⟨admitted, winner, isWinner⟩ := facts
      obtain ⟨unchanged, failed | read⟩ := server_get outcome
      · obtain ⟨error, isError⟩ := failed
        subst unchanged isError
        exact ⟨created, ⟨.failed error, rfl, trivial⟩, fun _ _ held => held⟩
      · subst unchanged read
        refine ⟨created, ⟨.answered winner, ?_, admitted, isWinner⟩, fun _ _ held => held⟩
        dsimp only
        rw [isWinner]
        rfl

end Statements

/-! ## Every schedule -/

section Schedules

variable (requests : ResourceRequests Pid)

abbrev ConsistentResources (world : ResourceWorld Pid) : Prop :=
  world.Consistent (RecordsCreated requests) (AtResourceStage requests)

theorem resourceStart_consistent : ConsistentResources requests requests.start := by
  constructor
  · intro key response isRecord
    cases isRecord
  · intro pid program isProgram
    cases isProgram
    exact postResource_stage requests pid

variable [DecidableEq Pid]

theorem consistentResources_runEvents (events : List (Event Pid Delivery)) :
    ConsistentResources requests (requests.runEvents events) := by
  apply run_invariant_of_step
  · intro world event consistent
    refine @World.Consistent.step _ _ _ _ _ _ _ _ _ _ _ (fun _ _ => True) ?_ ?_ world event
      consistent trivial
    · intro world pid delivery statement next reply records consistent current _meets outcome
      obtain ⟨created, standing, kept⟩ :=
        AtResourceStage.advance (consistent.points pid _ current) consistent.shared outcome
      exact ⟨created, standing, fun _ _ _ other => other.frame kept⟩
    · intro pid records created
      exact ⟨created, fun _ _ standing => standing⟩
  · exact resourceStart_consistent requests

/-- A response is the record under the key of its request. -/
theorem record_of_returned {events : List (Event Pid Delivery)} {pid : Pid}
    {response : IdempotentResponse}
    (answered : (requests.runEvents events).returned pid = some response) :
    (requests.request pid).Admitted ∧
      (requests.runEvents events).shared (requests.request pid).key = some response := by
  have consistent := consistentResources_runEvents requests events
  obtain ⟨stage, same, facts⟩ :=
    consistent.points pid _ (World.returned_eq_some.mp answered)
  cases stage with
  | answered other =>
      cases same
      exact facts
  | lookingUp | committing | readingWinner | failed => cases same

theorem idempotent_of_keysSeparate (separate : requests.KeysSeparate)
    (events : List (Event Pid Delivery)) :
    requests.Idempotent (requests.runEvents events) := by
  have created := (consistentResources_runEvents requests events).shared
  constructor
  · intro first second response other sameTriple firstAnswered secondAnswered
    have sameKey : (requests.request first).key = (requests.request second).key := by
      have sameTenant := congrArg Prod.fst sameTriple
      have sameHeader := congrArg Prod.snd sameTriple
      unfold ResourceRequest.triple at sameTenant sameHeader
      dsimp only at sameTenant sameHeader
      unfold ResourceRequest.key
      rw [sameTenant, sameHeader]
    have firstRecord := (record_of_returned requests firstAnswered).2
    have secondRecord := (record_of_returned requests secondAnswered).2
    rw [sameKey, secondRecord] at firstRecord
    exact (Option.some.inj firstRecord).symm
  · intro pid response creator answered sameId
    obtain ⟨admitted, isRecord⟩ := record_of_returned requests answered
    obtain ⟨origin, originAdmitted, sameKey, isCreated⟩ := created _ response isRecord
    have isOrigin : creator = origin := by
      rw [isCreated] at sameId
      exact (requests.distinct sameId).symm
    rw [isOrigin]
    exact separate origin pid originAdmitted admitted sameKey

/-- The schedule in which one request runs first and then another looks up its
key. -/
def oneAfterTheOther (first second : Pid) : List (Event Pid Delivery) :=
  [.statement first .answered, .statement first .answered, .statement second .answered]

/-- A request with the key of an earlier one is answered with the resource of
the earlier one. -/
theorem returned_oneAfterTheOther {first second : Pid} (different : first ≠ second)
    (firstAdmitted : (requests.request first).Admitted)
    (secondAdmitted : (requests.request second).Admitted)
    (sameKey : (requests.request first).key = (requests.request second).key) :
    (requests.runEvents (oneAfterTheOther first second)).returned second =
      some (requests.created first) := by
  have firstLooksUp : requests.start.programs first =
      some (ResourceStage.program requests first .lookingUp) :=
    congrArg some (postResource_admitted requests first firstAdmitted)
  have secondLooksUp : requests.start.programs second =
      some (ResourceStage.program requests second .lookingUp) :=
    congrArg some (postResource_admitted requests second secondAdmitted)
  unfold ResourceRequests.runEvents oneAfterTheOther
  rw [run_cons, World.step_statement firstLooksUp rfl]
  dsimp only
  rw [show requests.start.shared (requests.request first).key = none from rfl,
    afterLookup_none]
  rw [run_cons, World.step_statement (Function.update_self _ _ _) rfl]
  have stillLooksUp : ∀ firstProgram committed : Option (IdempotencyProgram IdempotentResponse),
      Function.update (Function.update requests.start.programs first firstProgram) first committed
        second = some (ResourceStage.program requests second .lookingUp) := by
    intro firstProgram committed
    rw [Function.update_of_ne (Ne.symm different), Function.update_of_ne (Ne.symm different)]
    exact secondLooksUp
  rw [run_cons, World.step_statement (stillLooksUp _ _) rfl]
  apply World.returned_eq_some.mpr
  change Function.update _ second _ second = _
  rw [Function.update_self]
  dsimp only
  rw [← sameKey, Function.update_self]
  rfl

/-- Every schedule of some requests is idempotent exactly when no two triples of
theirs share a key. -/
theorem idempotent_iff_keysSeparate :
    (∀ events, requests.Idempotent (requests.runEvents events)) ↔ requests.KeysSeparate := by
  constructor
  · intro idempotent first second firstAdmitted secondAdmitted sameKey
    by_cases same : first = second
    · rw [same]
    · have answered :=
        returned_oneAfterTheOther requests same firstAdmitted secondAdmitted sameKey
      exact (idempotent (oneAfterTheOther first second)).ownResource second
        (requests.created first) first answered rfl
  · exact idempotent_of_keysSeparate requests

end Schedules

end Requests

/-- Two tenants whose ids join with their workspaces to the same text. -/
def collidingRequests : ResourceRequests Bool where
  request first :=
    if first then ⟨⟨"a:b", some "c"⟩, "12345678", "first"⟩
    else ⟨⟨"a", some "b:c"⟩, "12345678", "second"⟩
  randomUUID first := if first then "uuid-1" else "uuid-2"
  distinct := by
    unfold Function.Injective
    decide

/-- A tenant is answered with the resource of another one. -/
theorem foreignResourceAnswered :
    ¬ ∀ events, collidingRequests.Idempotent (collidingRequests.runEvents events) := by
  intro idempotent
  have answered : (collidingRequests.runEvents (oneAfterTheOther true false)).returned false =
      some (collidingRequests.created true) :=
    returned_oneAfterTheOther collidingRequests (by decide) (by decide) (by decide) (by decide)
  have sameTriple := (idempotent (oneAfterTheOther true false)).ownResource false _ true
    answered rfl
  revert sameTriple
  decide

end PlatformArchitecture.Api
