import PlatformArchitecture.PlatformSdk.CacheAside

/-!
# One load at a time

Whatever the caches answer, a step of the module changes its calls and loads in
one of six ways.  From these follows what ties the table to the calls: an entry
names the call that awaits the load, so no second load of the key can start,
and whoever awaits a load ends as it does.
-/

namespace PlatformArchitecture.PlatformSdk.CacheAside

open PlatformArchitecture.Foundations

variable {Cache Value Error : Type}

/-- The call neither awaits a load nor has ended with one. -/
def Point.IsLocal : Point Cache Value Error → Prop
  | .absent => True
  | .getting _ => True
  | .hit _ _ => True
  | .checking _ => True
  | .joined _ _ => False
  | .owning _ => False
  | .returned _ source _ => source = .cache
  | .rejected _ _ _ => False

def Stage.InProgress : Stage Value Error → Prop
  | .settled _ => False
  | _ => True

/-- The value a call has from its cache. -/
def Point.cachedValue : Point Cache Value Error → Option Value
  | .hit _ value => some value
  | .returned _ .cache value => some value
  | _ => none

/-- The value a load has from its loader. -/
def Stage.loadedValue : Stage Value Error → Option Value
  | .setting value => some value
  | .reporting value => some value
  | .settled (.ok value) => some value
  | _ => none

/-- The ways an event changes the calls, the loads and the table. -/
inductive Advances (event : Event Cache Value Error) (flight : Flight Cache Value Error) :
    Flight Cache Value Error → Prop
  | moves {id : Nat} {point : Point Cache Value Error} (before : (flight.calls id).IsLocal)
      (after : point.IsLocal)
      (origin : ∀ value, point.cachedValue = some value →
        (flight.calls id).cachedValue = some value ∨
          ∃ now, event = .getReplies id (.value value) now) :
      Advances event flight (flight.setPoint id point)
  | joins {id owner : Nat} {request : Request Cache} (isEvent : event = .proceed id)
      (checks : flight.calls id = .checking request)
      (entry : flight.inFlight request.key = some owner) :
      Advances event flight (flight.setPoint id (.joined request owner))
  | starts {id : Nat} {request : Request Cache} (checks : flight.calls id = .checking request)
      (free : flight.inFlight request.key = none) :
      Advances event flight (flight.start id request)
  | leaves {id owner : Nat} {request loaded : Request Cache} {outcome : Except Error Value}
      (awaits : flight.calls id = .joined request owner)
      (settled : flight.loads owner = some ⟨loaded, .settled outcome⟩) :
      Advances event flight (flight.setPoint id (.ended request owner outcome))
  | finishes {id : Nat} {request loaded : Request Cache} {outcome : Except Error Value}
      (owns : flight.calls id = .owning request)
      (settled : flight.loads id = some ⟨loaded, .settled outcome⟩) :
      Advances event flight (flight.finish id request outcome)
  | progresses {id : Nat} {request : Request Cache} {stage next : Stage Value Error}
      (running : flight.loads id = some ⟨request, stage⟩) (before : stage.InProgress)
      (origin : ∀ value, next.loadedValue = some value →
        stage.loadedValue = some value ∨ ∃ now, event = .loadSettles id (.ok value) now) :
      Advances event flight (flight.setStage id request next)

@[simp]
theorem flight_withFlight (state : State Cache Value Error) (flight : Flight Cache Value Error) :
    (state.withFlight flight).flight = flight :=
  rfl

@[simp]
theorem flight_withBreaker (state : State Cache Value Error) (request : Request Cache)
    (breaker : CacheCircuitBreaker) : (state.withBreaker request breaker).flight = state.flight :=
  rfl

@[simp]
theorem flight_perform (state : State Cache Value Error) (effect : Effect Cache Value) :
    (state.perform effect).flight = state.flight :=
  rfl

@[simp]
theorem flight_record (state : State Cache Value Error) (request : Request Cache)
    (event : TelemetryEvent) : (state.record request event).flight = state.flight := by
  unfold State.record
  split <;> rfl

theorem outcome_eq_some {state : State Cache Value Error} {owner : Nat}
    {outcome : Except Error Value} (isOutcome : state.outcome owner = some outcome) :
    ∃ loaded, state.flight.loads owner = some ⟨loaded, .settled outcome⟩ := by
  unfold State.outcome at isOutcome
  split at isOutcome
  · next loaded settled isLoad =>
    cases isOutcome
    exact ⟨loaded, isLoad⟩
  · cases isOutcome

private theorem noValue {Origin : Value → Prop} :
    ∀ value : Value, (none : Option Value) = some value → Origin value := by
  intro value impossible
  cases impossible

private theorem begin_advances {event : Event Cache Value Error} {state : State Cache Value Error}
    {id : Nat} (request : Request Cache) (now : Nat) (before : (state.flight.calls id).IsLocal) :
    Advances event state.flight (state.begin id request now).flight := by
  unfold State.begin
  split
  · exact .moves before trivial noValue
  · rw [flight_record]
    exact .moves before trivial noValue

private theorem afterGet_advances {state : State Cache Value Error} {id : Nat}
    (request : Request Cache) (reply : GetReply Value) (now : Nat)
    (before : (state.flight.calls id).IsLocal) :
    Advances (.getReplies id reply now) state.flight
      (state.afterGet id request reply now).flight := by
  unfold State.afterGet
  cases reply with
  | value cached =>
      simp only [flight_record, flight_withBreaker, flight_withFlight]
      refine .moves before trivial ?_
      intro value same
      cases same
      exact Or.inr ⟨now, rfl⟩
  | null =>
      simp only [flight_record, flight_withBreaker, flight_withFlight]
      exact .moves before trivial noValue
  | threw =>
      simp only [flight_record, flight_withBreaker, flight_withFlight]
      exact .moves before trivial noValue

private theorem proceed_advances (state : State Cache Value Error) (id : Nat) :
    (state.proceed id).flight = state.flight ∨
      Advances (.proceed id) state.flight (state.proceed id).flight := by
  unfold State.proceed
  split
  · next request value isHit =>
    right
    have before : (state.flight.calls id).IsLocal := isHit ▸ trivial
    refine .moves before rfl ?_
    intro other same
    cases same
    rw [isHit]
    exact Or.inl rfl
  · next request checks =>
    right
    unfold State.check
    split
    · next owner entry => exact .joins rfl checks entry
    · next free => exact .starts checks free
  · next request owner awaits =>
    split
    · next outcome isOutcome =>
      obtain ⟨loaded, settled⟩ := outcome_eq_some isOutcome
      exact Or.inr (.leaves awaits settled)
    · exact Or.inl rfl
  · next request owns =>
    split
    · next outcome isOutcome =>
      obtain ⟨loaded, settled⟩ := outcome_eq_some isOutcome
      exact Or.inr (.finishes owns settled)
    · exact Or.inl rfl
  · exact Or.inl rfl

private theorem afterLoad_advances {state : State Cache Value Error} {id : Nat}
    {request : Request Cache} (running : state.flight.loads id = some ⟨request, .loading⟩)
    (outcome : Except Error Value) (now : Nat) :
    Advances (.loadSettles id outcome now) state.flight
      (state.afterLoad id request outcome now).flight := by
  unfold State.afterLoad
  cases outcome with
  | error error => exact .progresses running trivial noValue
  | ok value =>
      have origin : ∀ other, some value = some other →
          Stage.loadedValue (.loading : Stage Value Error) = some other ∨
            ∃ moment, Event.loadSettles id (.ok value) now =
              (.loadSettles id (.ok other) moment : Event Cache Value Error) := by
        intro other same
        cases same
        exact Or.inr ⟨now, rfl⟩
      dsimp only
      split
      · exact .progresses running trivial origin
      · exact .progresses running trivial origin

private theorem afterSet_advances {state : State Cache Value Error} {id : Nat}
    {request : Request Cache} {value : Value}
    (running : state.flight.loads id = some ⟨request, .setting value⟩) (threw : Bool)
    (now : Nat) :
    Advances (.setReplies id threw now) state.flight
      (state.afterSet id request value threw now).flight := by
  unfold State.afterSet
  split
  · rw [flight_record]
    exact .progresses running trivial fun _other same => Or.inl same
  · exact .progresses running trivial fun _other same => Or.inl same

/-- The shape of every step. -/
theorem step_advances (state : State Cache Value Error) (event : Event Cache Value Error) :
    (step state event).flight = state.flight ∨
      Advances event state.flight (step state event).flight := by
  cases event with
  | call id request now =>
      dsimp only [step]
      split
      · next isAbsent =>
        exact Or.inr (begin_advances request now (isAbsent ▸ trivial))
      · exact Or.inl rfl
  | getReplies id reply now =>
      dsimp only [step]
      split
      · next request isGetting =>
        exact Or.inr (afterGet_advances request reply now (isGetting ▸ trivial))
      · exact Or.inl rfl
  | proceed id => exact proceed_advances state id
  | loadSettles id outcome now =>
      dsimp only [step]
      split
      · next request running => exact Or.inr (afterLoad_advances running outcome now)
      · exact Or.inl rfl
  | setReplies id threw now =>
      dsimp only [step]
      split
      · next request value running => exact Or.inr (afterSet_advances running threw now)
      · exact Or.inl rfl
  | reported id =>
      dsimp only [step]
      split
      · next request value running =>
        exact Or.inr (.progresses running trivial fun _other same => Or.inl same)
      · exact Or.inl rfl

/-- The load a call ended with, and how. -/
def Point.loadOutcome : Point Cache Value Error → Option (Request Cache × Nat × Except Error Value)
  | .returned request (.load owner) value => some (request, owner, .ok value)
  | .rejected request owner error => some (request, owner, .error error)
  | _ => none

/-- What holds between two steps: an entry of the table names the call that
awaits the load of its own, and loads are of the key of those who await them. -/
structure Coherent (flight : Flight Cache Value Error) : Prop where
  entry : ∀ key owner, flight.inFlight key = some owner →
    ∃ request, flight.calls owner = .owning request ∧ request.key = key
  registered : ∀ id request, flight.calls id = .owning request →
    flight.inFlight request.key = some id
  owned : ∀ id request, flight.calls id = .owning request →
    ∃ stage, flight.loads id = some ⟨request, stage⟩
  running : ∀ id request stage, flight.loads id = some ⟨request, stage⟩ → stage.InProgress →
    flight.calls id = .owning request
  unstarted : ∀ id, (flight.calls id).IsLocal → flight.loads id = none
  joined : ∀ id request owner, flight.calls id = .joined request owner →
    ∃ loaded stage, flight.loads owner = some ⟨loaded, stage⟩ ∧ loaded.key = request.key
  ended : ∀ id request owner outcome,
    (flight.calls id).loadOutcome = some (request, owner, outcome) →
      ∃ loaded, flight.loads owner = some ⟨loaded, .settled outcome⟩ ∧ loaded.key = request.key

@[simp]
theorem calls_setPoint_self (flight : Flight Cache Value Error) (id : Nat)
    (point : Point Cache Value Error) : (flight.setPoint id point).calls id = point := by
  simp only [Flight.setPoint, Function.update_self]

theorem calls_setPoint_of_ne (flight : Flight Cache Value Error) {id other : Nat}
    (different : other ≠ id) (point : Point Cache Value Error) :
    (flight.setPoint id point).calls other = flight.calls other := by
  simp only [Flight.setPoint, Function.update_of_ne different]

/-- Where a call is after one has moved. -/
theorem calls_setPoint_cases (flight : Flight Cache Value Error) (id other : Nat)
    (point : Point Cache Value Error) :
    (flight.setPoint other point).calls id = flight.calls id ∨
      id = other ∧ (flight.setPoint other point).calls id = point := by
  by_cases same : id = other
  · subst same
    exact Or.inr ⟨rfl, calls_setPoint_self flight id point⟩
  · exact Or.inl (calls_setPoint_of_ne flight same point)

/-- What is said of every call after one has moved. -/
theorem forall_calls_setPoint (fact : Nat → Point Cache Value Error → Prop)
    {flight : Flight Cache Value Error} {id : Nat} {point : Point Cache Value Error}
    (self : fact id point) (others : ∀ other, other ≠ id → fact other (flight.calls other)) :
    ∀ other, fact other ((flight.setPoint id point).calls other) :=
  (Function.forall_update_iff flight.calls fact).mpr ⟨self, others⟩

/-- A call moves between points at which it owns no load. -/
theorem Coherent.setPoint {flight : Flight Cache Value Error} {id : Nat}
    {point : Point Cache Value Error} (coherent : Coherent flight)
    (before : ∀ request, flight.calls id ≠ .owning request)
    (after : ∀ request, point ≠ .owning request)
    (unstarted : point.IsLocal → flight.loads id = none)
    (joins : ∀ request owner, point = .joined request owner →
      ∃ loaded stage, flight.loads owner = some ⟨loaded, stage⟩ ∧ loaded.key = request.key)
    (ends : ∀ request owner outcome, point.loadOutcome = some (request, owner, outcome) →
      ∃ loaded, flight.loads owner = some ⟨loaded, .settled outcome⟩ ∧
        loaded.key = request.key) :
    Coherent (flight.setPoint id point) := by
  have owning : ∀ other request, (flight.setPoint id point).calls other = .owning request ↔
      flight.calls other = .owning request := by
    intro other request
    by_cases same : other = id
    · subst same
      rw [calls_setPoint_self]
      exact iff_of_false (after request) (before request)
    · rw [calls_setPoint_of_ne flight same]
  constructor
  case entry =>
    intro key owner isEntry
    obtain ⟨request, owns, sameKey⟩ := coherent.entry key owner isEntry
    exact ⟨request, (owning owner request).mpr owns, sameKey⟩
  case registered =>
    intro other request owns
    exact coherent.registered other request ((owning other request).mp owns)
  case owned =>
    intro other request owns
    exact coherent.owned other request ((owning other request).mp owns)
  case running =>
    intro other request stage isLoad inProgress
    exact (owning other request).mpr (coherent.running other request stage isLoad inProgress)
  case unstarted =>
    exact forall_calls_setPoint
      (fun other point => point.IsLocal → flight.loads other = none)
      unstarted fun other _different => coherent.unstarted other
  case joined =>
    exact forall_calls_setPoint
      (fun _ point => ∀ request owner, point = .joined request owner →
        ∃ loaded stage, flight.loads owner = some ⟨loaded, stage⟩ ∧ loaded.key = request.key)
      joins fun other _different => coherent.joined other
  case ended =>
    exact forall_calls_setPoint
      (fun _ point => ∀ request owner outcome,
        point.loadOutcome = some (request, owner, outcome) →
          ∃ loaded, flight.loads owner = some ⟨loaded, .settled outcome⟩ ∧
            loaded.key = request.key)
      ends fun other _different => coherent.ended other

theorem loadOutcome_of_isLocal {point : Point Cache Value Error} (isLocal : point.IsLocal) :
    point.loadOutcome = none := by
  cases point with
  | absent => rfl
  | getting request => rfl
  | hit request value => rfl
  | checking request => rfl
  | joined request owner => rfl
  | owning request => rfl
  | returned request source value =>
      obtain rfl : source = .cache := isLocal
      rfl
  | rejected request owner error => exact isLocal.elim

private theorem moves_coherent {flight : Flight Cache Value Error} {id : Nat}
    {point : Point Cache Value Error} (coherent : Coherent flight)
    (before : (flight.calls id).IsLocal) (after : point.IsLocal) :
    Coherent (flight.setPoint id point) := by
  apply coherent.setPoint
  · intro request owns
    rw [owns] at before
    exact before
  · rintro request rfl
    exact after
  · intro _isLocal
    exact coherent.unstarted id before
  · rintro request owner rfl
    exact after.elim
  · intro request owner outcome isEnd
    rw [loadOutcome_of_isLocal after] at isEnd
    cases isEnd

private theorem joins_coherent {flight : Flight Cache Value Error} {id owner : Nat}
    {request : Request Cache} (coherent : Coherent flight)
    (checks : flight.calls id = .checking request)
    (entry : flight.inFlight request.key = some owner) :
    Coherent (flight.setPoint id (.joined request owner)) := by
  obtain ⟨loaded, owns, sameKey⟩ := coherent.entry request.key owner entry
  obtain ⟨stage, isLoad⟩ := coherent.owned owner loaded owns
  apply coherent.setPoint
  · intro other owning
    rw [checks] at owning
    cases owning
  · intro other impossible
    cases impossible
  · exact False.elim
  · intro other otherOwner same
    cases same
    exact ⟨loaded, stage, isLoad, sameKey⟩
  · intro other otherOwner outcome impossible
    cases impossible

theorem loadOutcome_ended (request : Request Cache) (owner : Nat) (outcome : Except Error Value) :
    (Point.ended request owner outcome).loadOutcome = some (request, owner, outcome) := by
  cases outcome <;> rfl

theorem ended_ne_owning {request other : Request Cache} {owner : Nat}
    {outcome : Except Error Value} :
    Point.ended request owner outcome ≠ .owning other := by
  intro same
  cases outcome <;> cases same

theorem ended_ne_joined {request other : Request Cache} {owner otherOwner : Nat}
    {outcome : Except Error Value} :
    Point.ended request owner outcome ≠ .joined other otherOwner := by
  intro same
  cases outcome <;> cases same

theorem not_isLocal_ended {request : Request Cache} {owner : Nat}
    {outcome : Except Error Value} : ¬ (Point.ended request owner outcome).IsLocal := by
  intro isLocal
  have noOutcome := loadOutcome_of_isLocal isLocal
  rw [loadOutcome_ended] at noOutcome
  cases noOutcome

private theorem leaves_coherent {flight : Flight Cache Value Error} {id owner : Nat}
    {request loaded : Request Cache} {outcome : Except Error Value} (coherent : Coherent flight)
    (awaits : flight.calls id = .joined request owner)
    (settled : flight.loads owner = some ⟨loaded, .settled outcome⟩) :
    Coherent (flight.setPoint id (.ended request owner outcome)) := by
  have sameKey : loaded.key = request.key := by
    obtain ⟨found, stage, isLoad, sameKey⟩ := coherent.joined id request owner awaits
    rw [settled] at isLoad
    cases isLoad
    exact sameKey
  apply coherent.setPoint
  · intro other owning
    rw [awaits] at owning
    cases owning
  · intro other
    exact ended_ne_owning
  · intro isLocal
    exact absurd isLocal not_isLocal_ended
  · intro other otherOwner impossible
    exact absurd impossible ended_ne_joined
  · intro other otherOwner otherOutcome isEnd
    rw [loadOutcome_ended] at isEnd
    cases isEnd
    exact ⟨loaded, settled, sameKey⟩

theorem loads_setStage_self (flight : Flight Cache Value Error) (id : Nat)
    (request : Request Cache) (stage : Stage Value Error) :
    (flight.setStage id request stage).loads id = some ⟨request, stage⟩ := by
  simp only [Flight.setStage, Function.update_self]

theorem loads_setStage_of_ne (flight : Flight Cache Value Error) {id other : Nat}
    (different : other ≠ id) (request : Request Cache) (stage : Stage Value Error) :
    (flight.setStage id request stage).loads other = flight.loads other := by
  simp only [Flight.setStage, Function.update_of_ne different]

private theorem progresses_coherent {flight : Flight Cache Value Error} {id : Nat}
    {request : Request Cache} {stage : Stage Value Error} (next : Stage Value Error)
    (coherent : Coherent flight) (running : flight.loads id = some ⟨request, stage⟩)
    (before : stage.InProgress) : Coherent (flight.setStage id request next) := by
  have owns := coherent.running id request stage running before
  constructor
  case entry => exact coherent.entry
  case registered => exact coherent.registered
  case owned =>
    intro other otherRequest otherOwns
    by_cases same : other = id
    · subst same
      have sameRequest : otherRequest = request := by
        have both := (show flight.calls other = .owning otherRequest from otherOwns).symm.trans owns
        cases both
        rfl
      rw [loads_setStage_self, sameRequest]
      exact ⟨next, rfl⟩
    · rw [loads_setStage_of_ne flight same]
      exact coherent.owned other otherRequest otherOwns
  case running =>
    intro other otherRequest otherStage isLoad inProgress
    by_cases same : other = id
    · subst same
      rw [loads_setStage_self] at isLoad
      cases isLoad
      exact owns
    · rw [loads_setStage_of_ne flight same] at isLoad
      exact coherent.running other otherRequest otherStage isLoad inProgress
  case unstarted =>
    intro other isLocal
    by_cases same : other = id
    · subst same
      have impossible : (flight.calls other).IsLocal := isLocal
      rw [owns] at impossible
      exact impossible.elim
    · rw [loads_setStage_of_ne flight same]
      exact coherent.unstarted other isLocal
  case joined =>
    intro other otherRequest owner awaits
    obtain ⟨loaded, otherStage, isLoad, sameKey⟩ :=
      coherent.joined other otherRequest owner awaits
    by_cases same : owner = id
    · subst same
      rw [running] at isLoad
      cases isLoad
      exact ⟨request, next, loads_setStage_self flight owner request next, sameKey⟩
    · exact ⟨loaded, otherStage, (loads_setStage_of_ne flight same request next).trans isLoad,
        sameKey⟩
  case ended =>
    intro other otherRequest owner outcome isEnd
    obtain ⟨loaded, settled, sameKey⟩ := coherent.ended other otherRequest owner outcome isEnd
    have different : owner ≠ id := by
      rintro rfl
      rw [running] at settled
      cases settled
      exact before
    exact ⟨loaded, (loads_setStage_of_ne flight different request next).trans settled, sameKey⟩

/-! ## The start of a load -/

section Start

variable {flight : Flight Cache Value Error} {id : Nat} {request : Request Cache}

theorem calls_start_self : (flight.start id request).calls id = .owning request :=
  calls_setPoint_self flight id _

theorem calls_start_of_ne {other : Nat} (different : other ≠ id) :
    (flight.start id request).calls other = flight.calls other :=
  calls_setPoint_of_ne flight different _

theorem loads_start_self : (flight.start id request).loads id = some ⟨request, .loading⟩ :=
  loads_setStage_self _ id request _

theorem loads_start_of_ne {other : Nat} (different : other ≠ id) :
    (flight.start id request).loads other = flight.loads other :=
  loads_setStage_of_ne _ different request _

/-- The call that starts a load had none before. -/
private theorem loaded_ne_starter (coherent : Coherent flight)
    (checks : flight.calls id = .checking request) {owner : Nat}
    {load : Load Cache Value Error} (isLoad : flight.loads owner = some load) : owner ≠ id := by
  rintro rfl
  have isLocal : (flight.calls owner).IsLocal := checks ▸ trivial
  rw [coherent.unstarted owner isLocal] at isLoad
  cases isLoad

private theorem starts_entry (coherent : Coherent flight)
    (checks : flight.calls id = .checking request) (key : String) (owner : Nat)
    (isEntry : (flight.start id request).inFlight key = some owner) :
    ∃ loaded, (flight.start id request).calls owner = .owning loaded ∧ loaded.key = key := by
  have updated : Function.update flight.inFlight request.key (some id) key = some owner := isEntry
  rw [Function.update_apply] at updated
  split at updated
  · next sameKey =>
    cases updated
    exact ⟨request, calls_start_self, sameKey.symm⟩
  · obtain ⟨other, owns, sameKey⟩ := coherent.entry key owner updated
    obtain ⟨stage, isLoad⟩ := coherent.owned owner other owns
    exact ⟨other, (calls_start_of_ne (loaded_ne_starter coherent checks isLoad)).trans owns,
      sameKey⟩

private theorem starts_registered (coherent : Coherent flight)
    (free : flight.inFlight request.key = none) (other : Nat) (loaded : Request Cache)
    (owns : (flight.start id request).calls other = .owning loaded) :
    (flight.start id request).inFlight loaded.key = some other := by
  show Function.update flight.inFlight request.key (some id) loaded.key = some other
  by_cases same : other = id
  · subst same
    rw [calls_start_self] at owns
    cases owns
    exact Function.update_self ..
  · rw [calls_start_of_ne same] at owns
    have isEntry := coherent.registered other loaded owns
    have otherKey : loaded.key ≠ request.key := by
      intro sameKey
      rw [sameKey, free] at isEntry
      cases isEntry
    rw [Function.update_of_ne otherKey]
    exact isEntry

private theorem starts_owned (coherent : Coherent flight) (other : Nat) (loaded : Request Cache)
    (owns : (flight.start id request).calls other = .owning loaded) :
    ∃ stage, (flight.start id request).loads other = some ⟨loaded, stage⟩ := by
  by_cases same : other = id
  · subst same
    rw [calls_start_self] at owns
    cases owns
    exact ⟨.loading, loads_start_self⟩
  · rw [calls_start_of_ne same] at owns
    rw [loads_start_of_ne same]
    exact coherent.owned other loaded owns

private theorem starts_running (coherent : Coherent flight) (other : Nat)
    (loaded : Request Cache) (stage : Stage Value Error)
    (isLoad : (flight.start id request).loads other = some ⟨loaded, stage⟩)
    (inProgress : stage.InProgress) :
    (flight.start id request).calls other = .owning loaded := by
  by_cases same : other = id
  · subst same
    rw [loads_start_self] at isLoad
    cases isLoad
    exact calls_start_self
  · rw [loads_start_of_ne same] at isLoad
    rw [calls_start_of_ne same]
    exact coherent.running other loaded stage isLoad inProgress

private theorem starts_coherent (coherent : Coherent flight)
    (checks : flight.calls id = .checking request)
    (free : flight.inFlight request.key = none) : Coherent (flight.start id request) where
  entry := starts_entry coherent checks
  registered := starts_registered coherent free
  owned := starts_owned coherent
  running := starts_running coherent
  unstarted := by
    refine forall_calls_setPoint
      (fun other point => point.IsLocal → (flight.start id request).loads other = none)
      False.elim ?_
    intro other different otherLocal
    rw [loads_start_of_ne different]
    exact coherent.unstarted other otherLocal
  joined := by
    refine forall_calls_setPoint
      (fun _ point => ∀ otherRequest owner, point = .joined otherRequest owner →
        ∃ loaded stage, (flight.start id request).loads owner = some ⟨loaded, stage⟩ ∧
          loaded.key = otherRequest.key)
      nofun ?_
    intro other _different otherRequest owner awaits
    obtain ⟨loaded, stage, isLoad, sameKey⟩ := coherent.joined other otherRequest owner awaits
    have different := loaded_ne_starter coherent checks isLoad
    exact ⟨loaded, stage, (loads_start_of_ne different).trans isLoad, sameKey⟩
  ended := by
    refine forall_calls_setPoint
      (fun _ point => ∀ otherRequest owner outcome,
        point.loadOutcome = some (otherRequest, owner, outcome) →
          ∃ loaded, (flight.start id request).loads owner = some ⟨loaded, .settled outcome⟩ ∧
            loaded.key = otherRequest.key)
      nofun ?_
    intro other _different otherRequest owner outcome isEnd
    obtain ⟨loaded, isLoad, sameKey⟩ := coherent.ended other otherRequest owner outcome isEnd
    have different := loaded_ne_starter coherent checks isLoad
    exact ⟨loaded, (loads_start_of_ne different).trans isLoad, sameKey⟩

end Start

theorem finish_eq {flight : Flight Cache Value Error} {id : Nat} {request : Request Cache}
    (isEntry : flight.inFlight request.key = some id) (outcome : Except Error Value) :
    flight.finish id request outcome =
      { flight.setPoint id (.ended request id outcome) with
        inFlight := Function.update flight.inFlight request.key none } := by
  unfold Flight.finish
  exact if_pos isEntry

section Finish

variable {flight : Flight Cache Value Error} {id : Nat} {request : Request Cache}
  {outcome : Except Error Value}

/-- The calls that still own a load were owners before. -/
private theorem owning_of_finished {other : Nat} {otherRequest : Request Cache}
    (otherOwns : (flight.setPoint id (.ended request id outcome)).calls other =
      .owning otherRequest) :
    other ≠ id ∧ flight.calls other = .owning otherRequest := by
  have different : other ≠ id := by
    rintro rfl
    rw [calls_setPoint_self] at otherOwns
    exact ended_ne_owning otherOwns
  rw [calls_setPoint_of_ne flight different] at otherOwns
  exact ⟨different, otherOwns⟩

private theorem finishes_entry (coherent : Coherent flight)
    (owns : flight.calls id = .owning request) (key : String) (owner : Nat)
    (otherEntry : Function.update flight.inFlight request.key none key = some owner) :
    ∃ other, (flight.setPoint id (.ended request id outcome)).calls owner = .owning other ∧
      other.key = key := by
  rw [Function.update_apply] at otherEntry
  split at otherEntry
  · cases otherEntry
  · next otherKey =>
    obtain ⟨other, otherOwns, sameKey⟩ := coherent.entry key owner otherEntry
    have different : owner ≠ id := by
      rintro rfl
      rw [owns] at otherOwns
      cases otherOwns
      exact otherKey sameKey.symm
    exact ⟨other, (calls_setPoint_of_ne flight different _).trans otherOwns, sameKey⟩

/-- The entry of another owner is under another key. -/
private theorem finishes_registered (coherent : Coherent flight)
    (owns : flight.calls id = .owning request) (other : Nat) (otherRequest : Request Cache)
    (otherOwns : (flight.setPoint id (.ended request id outcome)).calls other =
      .owning otherRequest) :
    Function.update flight.inFlight request.key none otherRequest.key = some other := by
  obtain ⟨different, otherOwns⟩ := owning_of_finished otherOwns
  have otherEntry := coherent.registered other otherRequest otherOwns
  have otherKey : otherRequest.key ≠ request.key := by
    intro sameKey
    rw [sameKey, coherent.registered id request owns] at otherEntry
    exact different (Option.some.inj otherEntry).symm
  rw [Function.update_of_ne otherKey]
  exact otherEntry

/-- A load that has settled is no longer in progress. -/
private theorem finishes_running (coherent : Coherent flight)
    (settled : flight.loads id = some ⟨request, .settled outcome⟩) (other : Nat)
    (otherRequest : Request Cache) (stage : Stage Value Error)
    (isLoad : flight.loads other = some ⟨otherRequest, stage⟩)
    (inProgress : stage.InProgress) :
    (flight.setPoint id (.ended request id outcome)).calls other = .owning otherRequest := by
  have different : other ≠ id := by
    rintro rfl
    have both : some _ = some _ := isLoad.symm.trans settled
    cases both
    exact inProgress
  exact (calls_setPoint_of_ne flight different _).trans
    (coherent.running other otherRequest stage isLoad inProgress)

private theorem finishes_coherent {loaded : Request Cache} (coherent : Coherent flight)
    (owns : flight.calls id = .owning request)
    (settled : flight.loads id = some ⟨loaded, .settled outcome⟩) :
    Coherent (flight.finish id request outcome) := by
  have sameRequest : loaded = request := by
    obtain ⟨stage, isLoad⟩ := coherent.owned id request owns
    rw [settled] at isLoad
    cases isLoad
    rfl
  subst sameRequest
  rw [finish_eq (coherent.registered id loaded owns)]
  constructor
  case entry => exact finishes_entry coherent owns
  case registered => exact finishes_registered coherent owns
  case owned =>
    intro other request otherOwns
    exact coherent.owned other request (owning_of_finished otherOwns).2
  case running => exact finishes_running coherent settled
  case unstarted =>
    exact forall_calls_setPoint
      (fun other point => point.IsLocal → flight.loads other = none)
      (fun isLocal => absurd isLocal not_isLocal_ended)
      fun other _different => coherent.unstarted other
  case joined =>
    exact forall_calls_setPoint
      (fun _ point => ∀ request owner, point = .joined request owner →
        ∃ loaded stage, flight.loads owner = some ⟨loaded, stage⟩ ∧ loaded.key = request.key)
      (fun _request _owner awaits => absurd awaits ended_ne_joined)
      fun other _different => coherent.joined other
  case ended =>
    refine forall_calls_setPoint
      (fun _ point => ∀ request owner outcome,
        point.loadOutcome = some (request, owner, outcome) →
          ∃ loaded, flight.loads owner = some ⟨loaded, .settled outcome⟩ ∧
            loaded.key = request.key)
      ?_ fun other _different => coherent.ended other
    intro request owner otherOutcome isEnd
    rw [loadOutcome_ended] at isEnd
    cases isEnd
    exact ⟨loaded, settled, rfl⟩

end Finish

theorem advances_coherent {event : Event Cache Value Error}
    {flight next : Flight Cache Value Error} (coherent : Coherent flight)
    (advances : Advances event flight next) : Coherent next := by
  cases advances with
  | moves before after _origin => exact moves_coherent coherent before after
  | joins _isEvent checks entry => exact joins_coherent coherent checks entry
  | starts checks free => exact starts_coherent coherent checks free
  | leaves awaits settled => exact leaves_coherent coherent awaits settled
  | finishes owns settled => exact finishes_coherent coherent owns settled
  | progresses running before _origin => exact progresses_coherent _ coherent running before

theorem step_coherent (state : State Cache Value Error) (event : Event Cache Value Error)
    (coherent : Coherent state.flight) : Coherent (step state event).flight := by
  rcases step_advances state event with same | advances
  · rw [same]
    exact coherent
  · exact advances_coherent coherent advances

theorem initial_coherent (breakers : Nat → CacheCircuitBreaker) :
    Coherent (initial breakers : State Cache Value Error).flight := by
  constructor
  case entry =>
    intro key owner impossible
    cases impossible
  case registered =>
    intro id request impossible
    cases impossible
  case owned =>
    intro id request impossible
    cases impossible
  case running =>
    intro id request stage impossible
    cases impossible
  case unstarted =>
    intro id _isLocal
    rfl
  case joined =>
    intro id request owner impossible
    cases impossible
  case ended =>
    intro id request owner outcome impossible
    cases impossible

theorem run_coherent (breakers : Nat → CacheCircuitBreaker)
    (events : List (Event Cache Value Error)) :
    Coherent (run step (initial breakers) events).flight :=
  @run_invariant_of_step _ _ step (fun state => Coherent state.flight) step_coherent _ events
    (initial_coherent breakers)

end PlatformArchitecture.PlatformSdk.CacheAside
