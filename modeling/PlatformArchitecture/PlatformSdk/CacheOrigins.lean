import PlatformArchitecture.PlatformSdk.CacheAsideCalls

/-!
# Where the values of `cacheAside` come from

Every value a call returns was answered by its own cache or produced by the
loader of the load it ended with.  That loader was passed with the call's own
cache as long as no call joins a load that was started through another cache;
the table, which has the caller's key only, does not see to it.
-/

namespace PlatformArchitecture.PlatformSdk.CacheAside

open PlatformArchitecture.Foundations

variable {Cache Value Error : Type}

/-- The values of calls and loads were given by the caches and the loaders. -/
structure Originated (events : List (Event Cache Value Error))
    (flight : Flight Cache Value Error) : Prop where
  cached : ∀ id value, (flight.calls id).cachedValue = some value →
    ∃ now, .getReplies id (.value value) now ∈ events
  loaded : ∀ owner load value, flight.loads owner = some load →
    load.stage.loadedValue = some value → ∃ now, .loadSettles owner (.ok value) now ∈ events

private theorem cachedValue_ended (request : Request Cache) (owner : Nat)
    (outcome : Except Error Value) : (Point.ended request owner outcome).cachedValue = none := by
  cases outcome <;> rfl

/-- A value a call has from its cache was there before or is the answer now. -/
private theorem cachedValue_cases {event : Event Cache Value Error}
    {flight next : Flight Cache Value Error} (coherent : Coherent flight)
    (advances : Advances event flight next) {id : Nat} {value : Value}
    (cached : (next.calls id).cachedValue = some value) :
    (flight.calls id).cachedValue = some value ∨
      ∃ now, event = .getReplies id (.value value) now := by
  have setPoint_cases : ∀ {other : Nat} {point : Point Cache Value Error},
      ((flight.setPoint other point).calls id).cachedValue = some value →
        (flight.calls id).cachedValue = some value ∨
          id = other ∧ point.cachedValue = some value := by
    intro other point isCached
    rcases calls_setPoint_cases flight id other point with unmoved | ⟨isMoved, moved⟩
    · exact Or.inl (unmoved ▸ isCached)
    · exact Or.inr ⟨isMoved, moved ▸ isCached⟩
  cases advances with
  | moves before after origin =>
      rcases setPoint_cases cached with already | ⟨rfl, isCached⟩
      · exact Or.inl already
      · exact origin value isCached
  | joins isEvent checks entry =>
      rcases setPoint_cases cached with already | ⟨rfl, impossible⟩
      · exact Or.inl already
      · cases impossible
  | starts checks free =>
      rcases setPoint_cases cached with already | ⟨rfl, impossible⟩
      · exact Or.inl already
      · cases impossible
  | leaves awaits settled =>
      rcases setPoint_cases cached with already | ⟨rfl, impossible⟩
      · exact Or.inl already
      · rw [cachedValue_ended] at impossible
        cases impossible
  | finishes owns settled =>
      rw [finish_eq (coherent.registered _ _ owns)] at cached
      rcases setPoint_cases cached with already | ⟨rfl, impossible⟩
      · exact Or.inl already
      · rw [cachedValue_ended] at impossible
        cases impossible
  | progresses running before origin => exact Or.inl cached

/-- A value a load has was there before or is produced now. -/
private theorem loadedValue_cases {event : Event Cache Value Error}
    {flight next : Flight Cache Value Error} (coherent : Coherent flight)
    (advances : Advances event flight next) {owner : Nat} {load : Load Cache Value Error}
    {value : Value} (isLoad : next.loads owner = some load)
    (loaded : load.stage.loadedValue = some value) :
    (∃ before, flight.loads owner = some before ∧ before.stage.loadedValue = some value) ∨
      ∃ now, event = .loadSettles owner (.ok value) now := by
  cases advances with
  | moves before after origin => exact Or.inl ⟨load, isLoad, loaded⟩
  | joins isEvent checks entry => exact Or.inl ⟨load, isLoad, loaded⟩
  | @starts other request checks free =>
      by_cases same : owner = other
      · subst same
        have isLoading : some load = some ⟨request, .loading⟩ :=
          isLoad.symm.trans (loads_setStage_self _ owner request .loading)
        cases isLoading
        cases loaded
      · have unchanged := (loads_setStage_of_ne _ same request .loading).symm.trans isLoad
        exact Or.inl ⟨load, unchanged, loaded⟩
  | leaves awaits settled => exact Or.inl ⟨load, isLoad, loaded⟩
  | finishes owns settled =>
      rw [finish_eq (coherent.registered _ _ owns)] at isLoad
      exact Or.inl ⟨load, isLoad, loaded⟩
  | @progresses other request stage new running before origin =>
      by_cases same : owner = other
      · subst same
        rw [loads_setStage_self] at isLoad
        cases isLoad
        rcases origin value loaded with already | isEvent
        · exact Or.inl ⟨_, running, already⟩
        · exact Or.inr isEvent
      · rw [loads_setStage_of_ne flight same] at isLoad
        exact Or.inl ⟨load, isLoad, loaded⟩

theorem run_originated (breakers : Nat → CacheCircuitBreaker)
    (events : List (Event Cache Value Error)) :
    Originated events (run step (initial breakers) events).flight := by
  have stepped : ∀ (prior : List (Event Cache Value Error)) (event : Event Cache Value Error),
      prior ++ [event] <+: events → event ∈ events := fun prior event isPrefix =>
    isPrefix.subset (List.mem_append_right prior (List.mem_singleton_self event))
  constructor
  · intro id value cached
    obtain ⟨prior, event, isPrefix, notYet, becomes⟩ :=
      @exists_step_of_holds _ _ step
        (fun state : State Cache Value Error => (state.flight.calls id).cachedValue = some value)
        (initial breakers) events (Option.some_ne_none _ ·.symm) cached
    rcases step_advances (run step (initial breakers) prior) event with same | advances
    · rw [same] at becomes
      exact absurd becomes notYet
    · rcases cachedValue_cases (run_coherent breakers prior) advances becomes with
        already | ⟨now, rfl⟩
      · exact absurd already notYet
      · exact ⟨now, stepped prior _ isPrefix⟩
  · intro owner load value isLoad loaded
    obtain ⟨prior, event, isPrefix, notYet, after, isAfter, isLoaded⟩ :=
      @exists_step_of_holds _ _ step
        (fun state : State Cache Value Error => ∃ load, state.flight.loads owner = some load ∧
          load.stage.loadedValue = some value)
        (initial breakers) events
        (fun impossible => Option.some_ne_none _ impossible.choose_spec.1.symm)
        ⟨load, isLoad, loaded⟩
    rcases step_advances (run step (initial breakers) prior) event with same | advances
    · rw [same] at isAfter
      exact absurd ⟨after, isAfter, isLoaded⟩ notYet
    · rcases loadedValue_cases (run_coherent breakers prior) advances isAfter isLoaded with
        already | ⟨now, rfl⟩
      · exact absurd already notYet
      · exact ⟨now, stepped prior _ isPrefix⟩

/-- Every value returned was answered by the call's own cache or produced by a
loader that was passed with that cache. -/
def ReturnsOwnValues (events : List (Event Cache Value Error))
    (flight : Flight Cache Value Error) : Prop :=
  ∀ id request source value, flight.calls id = .returned request source value →
    (∃ now, .getReplies id (.value value) now ∈ events) ∨
      ∃ owner load now, flight.loads owner = some load ∧ load.request.cache = request.cache ∧
        .loadSettles owner (.ok value) now ∈ events

/-- A call that joins a load joins one that was started through its own
cache. -/
def JoinsOwnCache (state : State Cache Value Error) : Event Cache Value Error → Prop
  | .proceed id =>
      match state.flight.calls id with
      | .checking request =>
          match (state.flight.inFlight request.key).bind state.flight.loads with
          | some load => load.request.cache = request.cache
          | none => True
      | _ => True
  | _ => True

instance [DecidableEq Cache] (state : State Cache Value Error) (event : Event Cache Value Error) :
    Decidable (JoinsOwnCache state event) := by
  unfold JoinsOwnCache
  split
  · split
    · split <;> infer_instance
    · infer_instance
  · infer_instance

theorem JoinsOwnCache.joins {state : State Cache Value Error} {id owner : Nat}
    {request : Request Cache} {load : Load Cache Value Error}
    (condition : JoinsOwnCache state (.proceed id))
    (checks : state.flight.calls id = .checking request)
    (entry : state.flight.inFlight request.key = some owner)
    (isLoad : state.flight.loads owner = some load) : load.request.cache = request.cache := by
  simp only [JoinsOwnCache, checks, entry, Option.bind_some, isLoad] at condition
  exact condition

/-- Calls await and have ended with loads of their own caches. -/
def LoadsOwnCache (flight : Flight Cache Value Error) : Prop :=
  ∀ id request owner load,
    (AwaitsLoad flight id request owner ∨
      ∃ outcome, (flight.calls id).loadOutcome = some (request, owner, outcome)) →
      flight.loads owner = some load → load.request.cache = request.cache

/-- A load that was there keeps its request. -/
private theorem load_request {event : Event Cache Value Error}
    {flight next : Flight Cache Value Error} (coherent : Coherent flight)
    (advances : Advances event flight next) {owner : Nat} {load after : Load Cache Value Error}
    (isLoad : flight.loads owner = some load) (isAfter : next.loads owner = some after) :
    after.request = load.request := by
  have unchanged : next.loads owner = flight.loads owner → after.request = load.request := by
    intro same
    rw [same, isLoad] at isAfter
    cases isAfter
    rfl
  cases advances with
  | moves before afterwards origin => exact unchanged rfl
  | joins isEvent checks entry => exact unchanged rfl
  | @starts other request checks free =>
      have isLocal : (flight.calls other).IsLocal := checks ▸ trivial
      have different : owner ≠ other := by
        rintro rfl
        rw [coherent.unstarted owner isLocal] at isLoad
        cases isLoad
      exact unchanged (loads_setStage_of_ne _ different request .loading)
  | leaves awaits settled => exact unchanged rfl
  | finishes owns settled =>
      rw [finish_eq (coherent.registered _ _ owns)] at unchanged
      exact unchanged rfl
  | @progresses other request stage new running before origin =>
      by_cases same : owner = other
      · subst same
        rw [loads_setStage_self] at isAfter
        rw [running] at isLoad
        cases isAfter
        cases isLoad
        rfl
      · exact unchanged (loads_setStage_of_ne flight same request new)

/-- A call that awaits a load awaited it before, joins it or starts it. -/
private theorem awaits_cases {event : Event Cache Value Error}
    {flight next : Flight Cache Value Error} (coherent : Coherent flight)
    (advances : Advances event flight next) {id owner : Nat} {request : Request Cache}
    (awaits : AwaitsLoad next id request owner) :
    AwaitsLoad flight id request owner ∨
      (event = .proceed id ∧ flight.calls id = .checking request ∧
        flight.inFlight request.key = some owner) ∨
      next.loads owner = some ⟨request, .loading⟩ := by
  have setPoint_cases : ∀ {other : Nat} {point : Point Cache Value Error},
      AwaitsLoad (flight.setPoint other point) id request owner →
        AwaitsLoad flight id request owner ∨
          id = other ∧ (point = .joined request owner ∨ point = .owning request ∧ owner = id) := by
    intro other point awaitsNow
    unfold AwaitsLoad at awaitsNow ⊢
    rcases calls_setPoint_cases flight id other point with unmoved | ⟨isMoved, moved⟩
    · rw [unmoved] at awaitsNow
      exact Or.inl awaitsNow
    · rw [moved] at awaitsNow
      exact Or.inr ⟨isMoved, awaitsNow⟩
  cases advances with
  | moves before after origin =>
      rcases setPoint_cases awaits with already | ⟨rfl, rfl | ⟨rfl, _⟩⟩
      · exact Or.inl already
      · exact after.elim
      · exact after.elim
  | joins isEvent checks entry =>
      rcases setPoint_cases awaits with already | ⟨rfl, same | ⟨impossible, _⟩⟩
      · exact Or.inl already
      · cases same
        exact Or.inr (Or.inl ⟨isEvent, checks, entry⟩)
      · cases impossible
  | starts checks free =>
      rcases setPoint_cases awaits with already | ⟨rfl, impossible | ⟨same, rfl⟩⟩
      · exact Or.inl already
      · cases impossible
      · cases same
        exact Or.inr (Or.inr (loads_setStage_self _ owner request .loading))
  | leaves isAwaiting settled =>
      rcases setPoint_cases awaits with already | ⟨rfl, impossible | ⟨impossible, _⟩⟩
      · exact Or.inl already
      · exact absurd impossible ended_ne_joined
      · exact absurd impossible ended_ne_owning
  | finishes owns settled =>
      rw [finish_eq (coherent.registered _ _ owns)] at awaits
      rcases setPoint_cases awaits with already | ⟨rfl, impossible | ⟨impossible, _⟩⟩
      · exact Or.inl already
      · exact absurd impossible ended_ne_joined
      · exact absurd impossible ended_ne_owning
  | progresses running before origin => exact Or.inl awaits

private theorem load_of_awaits {flight : Flight Cache Value Error} (coherent : Coherent flight)
    {id owner : Nat} {request : Request Cache} (awaits : AwaitsLoad flight id request owner) :
    ∃ load, flight.loads owner = some load := by
  rcases awaits with joined | ⟨owns, rfl⟩
  · obtain ⟨loaded, stage, isLoad, _⟩ := coherent.joined id request owner joined
    exact ⟨_, isLoad⟩
  · obtain ⟨stage, isLoad⟩ := coherent.owned owner request owns
    exact ⟨_, isLoad⟩

/-- Joining within one's own cache keeps every call with its own cache. -/
private theorem advances_loadsOwnCache {event : Event Cache Value Error}
    {state : State Cache Value Error} {next : Flight Cache Value Error}
    (coherent : Coherent state.flight) (own : LoadsOwnCache state.flight)
    (condition : JoinsOwnCache state event) (advances : Advances event state.flight next) :
    LoadsOwnCache next := by
  intro id request owner after isWith isAfter
  have fromLoad : ∀ load, state.flight.loads owner = some load →
      load.request.cache = request.cache → after.request.cache = request.cache := by
    intro load isLoad sameCache
    rw [load_request coherent advances isLoad isAfter]
    exact sameCache
  have fromAwaits : AwaitsLoad state.flight id request owner →
      after.request.cache = request.cache := by
    intro awaits
    obtain ⟨load, isLoad⟩ := load_of_awaits coherent awaits
    exact fromLoad load isLoad (own id request owner load (Or.inl awaits) isLoad)
  rcases isWith with awaits | ⟨outcome, isEnd⟩
  · rcases awaits_cases coherent advances awaits with already | ⟨rfl, checks, entry⟩ | starts
    · exact fromAwaits already
    · obtain ⟨loaded, owns, _⟩ := coherent.entry request.key owner entry
      obtain ⟨stage, isLoad⟩ := coherent.owned owner loaded owns
      exact fromLoad _ isLoad (condition.joins checks entry isLoad)
    · rw [starts] at isAfter
      cases isAfter
      rfl
  · rcases call_cases coherent advances id with
      same | ⟨_, noOutcome⟩ | ⟨other, otherOwner, loaded, settled, awaits, _, isEnded⟩
    · rw [same] at isEnd
      obtain ⟨loaded, isLoad, _⟩ := coherent.ended id request owner outcome isEnd
      exact fromLoad _ isLoad (own id request owner _ (Or.inr ⟨outcome, isEnd⟩) isLoad)
    · rw [noOutcome] at isEnd
      cases isEnd
    · rw [isEnded, loadOutcome_ended] at isEnd
      cases isEnd
      exact fromAwaits awaits

/-- Where no call joins a load of another cache, every value returned is of the
call's own cache or of a loader passed with it. -/
theorem returnsOwnValues_of_joinsOwnCache (breakers : Nat → CacheCircuitBreaker)
    (events : List (Event Cache Value Error))
    (every : EveryStep step JoinsOwnCache (initial breakers) events) :
    ReturnsOwnValues events (run step (initial breakers) events).flight := by
  have atEnd :=
    @run_invariant _ _ (step : State Cache Value Error → _ → _) JoinsOwnCache
      (fun state => Coherent state.flight ∧ LoadsOwnCache state.flight)
      (by
        rintro state event ⟨coherent, own⟩ condition
        refine ⟨step_coherent state event coherent, ?_⟩
        rcases step_advances state event with same | advances
        · rw [same]
          exact own
        · exact advances_loadsOwnCache coherent own condition advances)
      (initial breakers) events
      ⟨initial_coherent breakers, fun _id _request _owner _load _isWith impossible =>
        (Option.some_ne_none _ impossible.symm).elim⟩
      every
  obtain ⟨coherent, own⟩ := atEnd
  have originated := run_originated breakers events
  intro id request source value isReturned
  cases source with
  | cache =>
      left
      apply originated.cached id value
      rw [isReturned]
      rfl
  | load owner =>
      right
      have isEnd : ((run step (initial breakers) events).flight.calls id).loadOutcome =
          some (request, owner, .ok value) := by
        rw [isReturned]
        rfl
      obtain ⟨loaded, isLoad, _⟩ := coherent.ended id request owner _ isEnd
      obtain ⟨now, produced⟩ := originated.loaded owner _ value isLoad rfl
      exact ⟨owner, _, now, isLoad,
        own id request owner _ (Or.inr ⟨_, isEnd⟩) isLoad, produced⟩

/-- The breakers of calls that were given none. -/
def closedBreakers : Nat → CacheCircuitBreaker := fun _ =>
  ⟨((3 : Nat) : JsNumber), ((10000 : Nat) : JsNumber), 0, ((0 : Nat) : JsNumber)⟩

/-- A call of one of two tenants with the key that both use. -/
def tenantRequest (tenant : Nat) (breaker : Nat) : Request Nat :=
  ⟨tenant, "settings", ((60 : Nat) : JsNumber), breaker, false⟩

/-- Two calls miss in their caches; the first starts a load and the second
joins it. -/
def joinedRun (first second : Nat) : List (Event Nat String Unit) :=
  [.call 0 (tenantRequest first 0) 1, .call 1 (tenantRequest second 1) 1,
    .getReplies 0 .null 1, .getReplies 1 .null 1, .proceed 0, .proceed 1,
    .loadSettles 0 (.ok "of the first") 2, .setReplies 0 false 2, .proceed 1]

theorem returnsOwnValues_oneCache :
    ReturnsOwnValues (joinedRun 7 7) (run step (initial closedBreakers) (joinedRun 7 7)).flight :=
  returnsOwnValues_of_joinsOwnCache closedBreakers (joinedRun 7 7) (by decide)

/-- The second tenant gets the value of the first tenant's loader. -/
theorem loaderValueLeaks :
    ¬ ∀ (breakers : Nat → CacheCircuitBreaker) (events : List (Event Nat String Unit)),
        ReturnsOwnValues events (run step (initial breakers) events).flight := by
  intro returnsOwn
  have returned : (run step (initial closedBreakers) (joinedRun 7 8)).flight.calls 1 =
      .returned (tenantRequest 8 1) (.load 0) "of the first" := by
    rfl
  rcases returnsOwn closedBreakers (joinedRun 7 8) 1 _ _ _ returned with
    ⟨now, cached⟩ | ⟨owner, load, now, isLoad, sameCache, produced⟩
  · simp [joinedRun] at cached
  · have isOwner : owner = 0 := by
      simp [joinedRun] at produced
      exact produced.1
    subst isOwner
    have isFirst : (run step (initial closedBreakers) (joinedRun 7 8)).flight.loads 0 =
        some ⟨tenantRequest 7 0, .settled (.ok "of the first")⟩ := by
      rfl
    cases isLoad.symm.trans isFirst
    revert sameCache
    decide

end PlatformArchitecture.PlatformSdk.CacheAside
