import PlatformArchitecture.PlatformSdk.SingleFlight

/-!
# What a call of `cacheAside` returns

A call that runs or has joined a load ends as that load settles, and rejects
for no other reason.  The table does not tell caches apart, so the load a call
joins may have been started through another cache.
-/

namespace PlatformArchitecture.PlatformSdk.CacheAside

open PlatformArchitecture.Foundations

variable {Cache Value Error : Type}

/-- The call runs or has joined the load of `owner`. -/
def AwaitsLoad (flight : Flight Cache Value Error) (id : Nat) (request : Request Cache)
    (owner : Nat) : Prop :=
  flight.calls id = .joined request owner ∨ flight.calls id = .owning request ∧ owner = id

/-- The call has ended as the load of `owner`, a load of its key, has settled. -/
def EndsWithLoad (flight : Flight Cache Value Error) (id : Nat) (request : Request Cache)
    (owner : Nat) : Prop :=
  ∃ loaded outcome, flight.calls id = .ended request owner outcome ∧
    flight.loads owner = some ⟨loaded, .settled outcome⟩ ∧ loaded.key = request.key

/-- What a step does to one call. -/
theorem call_cases {event : Event Cache Value Error}
    {flight next : Flight Cache Value Error} (coherent : Coherent flight)
    (advances : Advances event flight next) (id : Nat) :
    next.calls id = flight.calls id ∨
      ((flight.calls id).IsLocal ∧ (next.calls id).loadOutcome = none) ∨
        ∃ request owner loaded outcome, AwaitsLoad flight id request owner ∧
          flight.loads owner = some ⟨loaded, .settled outcome⟩ ∧
            next.calls id = .ended request owner outcome := by
  have unmoved : ∀ {other : Nat} (point : Point Cache Value Error), id ≠ other →
      (flight.setPoint other point).calls id = flight.calls id :=
    fun point different => calls_setPoint_of_ne flight different point
  cases advances with
  | @moves other point before after _origin =>
      by_cases same : id = other
      · subst same
        rw [calls_setPoint_self]
        exact Or.inr (Or.inl ⟨before, loadOutcome_of_isLocal after⟩)
      · exact Or.inl (unmoved point same)
  | @joins other owner request _isEvent checks entry =>
      by_cases same : id = other
      · subst same
        rw [calls_setPoint_self, checks]
        exact Or.inr (Or.inl ⟨trivial, rfl⟩)
      · exact Or.inl (unmoved _ same)
  | @starts other request checks free =>
      by_cases same : id = other
      · subst same
        rw [calls_start_self, checks]
        exact Or.inr (Or.inl ⟨trivial, rfl⟩)
      · exact Or.inl (unmoved _ same)
  | @leaves other owner request loaded outcome awaits settled =>
      by_cases same : id = other
      · subst same
        exact Or.inr (Or.inr ⟨request, owner, loaded, outcome, Or.inl awaits, settled,
          calls_setPoint_self flight id _⟩)
      · exact Or.inl (unmoved _ same)
  | @finishes other request loaded outcome owns settled =>
      rw [finish_eq (coherent.registered other request owns)]
      by_cases same : id = other
      · subst same
        exact Or.inr (Or.inr ⟨request, id, loaded, outcome, Or.inr ⟨owns, rfl⟩, settled,
          calls_setPoint_self flight id _⟩)
      · exact Or.inl (unmoved _ same)
  | progresses running before _origin => exact Or.inl rfl

/-- A load that has settled stays as it is. -/
theorem settled_stays {event : Event Cache Value Error}
    {flight next : Flight Cache Value Error} (coherent : Coherent flight)
    (advances : Advances event flight next) {owner : Nat} {loaded : Request Cache}
    {outcome : Except Error Value}
    (settled : flight.loads owner = some ⟨loaded, .settled outcome⟩) :
    next.loads owner = some ⟨loaded, .settled outcome⟩ := by
  cases advances with
  | moves before after _origin => exact settled
  | joins _isEvent checks entry => exact settled
  | @starts other request checks free =>
      have isLocal : (flight.calls other).IsLocal := checks ▸ trivial
      have different : owner ≠ other := by
        rintro rfl
        rw [coherent.unstarted owner isLocal] at settled
        cases settled
      exact (loads_start_of_ne different).trans settled
  | leaves awaits isSettled => exact settled
  | finishes owns isSettled =>
      rw [finish_eq (coherent.registered _ _ owns)]
      exact settled
  | @progresses other request stage new running before _origin =>
      have different : owner ≠ other := by
        rintro rfl
        rw [running] at settled
        cases settled
        exact before
      exact (loads_setStage_of_ne flight different request new).trans settled

private theorem not_isLocal_of_awaits {flight : Flight Cache Value Error} {id owner : Nat}
    {request : Request Cache} (awaits : AwaitsLoad flight id request owner) :
    ¬ (flight.calls id).IsLocal := by
  rcases awaits with joined | ⟨owns, _⟩
  · rw [joined]
    exact False.elim
  · rw [owns]
    exact False.elim

private theorem awaits_unique {flight : Flight Cache Value Error} {id owner otherOwner : Nat}
    {request other : Request Cache} (awaits : AwaitsLoad flight id request owner)
    (awaitsOther : AwaitsLoad flight id other otherOwner) :
    request = other ∧ owner = otherOwner := by
  rcases awaits with joined | ⟨owns, rfl⟩
  · rcases awaitsOther with otherJoined | ⟨otherOwns, _⟩
    · cases joined.symm.trans otherJoined
      exact ⟨rfl, rfl⟩
    · cases joined.symm.trans otherOwns
  · rcases awaitsOther with otherJoined | ⟨otherOwns, rfl⟩
    · cases owns.symm.trans otherJoined
    · cases owns.symm.trans otherOwns
      exact ⟨rfl, rfl⟩

/-- A call that has ended stays as it is. -/
private theorem ended_stays {event : Event Cache Value Error}
    {flight next : Flight Cache Value Error} (coherent : Coherent flight)
    (advances : Advances event flight next) {id owner : Nat} {request : Request Cache}
    {outcome : Except Error Value} (isEnded : flight.calls id = .ended request owner outcome) :
    next.calls id = .ended request owner outcome := by
  rcases call_cases coherent advances id with
    same | ⟨isLocal, _⟩ | ⟨other, otherOwner, otherLoaded, otherOutcome, awaits, _⟩
  · exact same.trans isEnded
  · rw [isEnded] at isLocal
    exact absurd isLocal not_isLocal_ended
  · rcases awaits with joined | ⟨owns, _⟩
    · exact absurd (isEnded.symm.trans joined) ended_ne_joined
    · exact absurd (isEnded.symm.trans owns) ended_ne_owning

private theorem endsWithLoad_stays {event : Event Cache Value Error}
    {flight next : Flight Cache Value Error} (coherent : Coherent flight)
    (advances : Advances event flight next) {id owner : Nat} {request : Request Cache}
    (ends : EndsWithLoad flight id request owner) :
    EndsWithLoad next id request owner := by
  obtain ⟨loaded, outcome, isEnded, settled, sameKey⟩ := ends
  exact ⟨loaded, outcome, ended_stays coherent advances isEnded,
    settled_stays coherent advances settled, sameKey⟩
/-- A call that awaits a load goes on waiting for it or ends with it. -/
private theorem awaitsLoad_stays {event : Event Cache Value Error}
    {flight next : Flight Cache Value Error} (coherent : Coherent flight)
    (advances : Advances event flight next) {id owner : Nat} {request : Request Cache}
    (awaits : AwaitsLoad flight id request owner) :
    AwaitsLoad next id request owner ∨ EndsWithLoad next id request owner := by
  rcases call_cases coherent advances id with
    same | ⟨isLocal, _⟩ | ⟨other, otherOwner, loaded, outcome, awaitsOther, settled, isEnded⟩
  · left
    rcases awaits with joined | ⟨owns, isOwner⟩
    · exact Or.inl (same.trans joined)
    · exact Or.inr ⟨same.trans owns, isOwner⟩
  · exact absurd isLocal (not_isLocal_of_awaits awaits)
  · right
    obtain ⟨rfl, rfl⟩ := awaits_unique awaits awaitsOther
    refine ⟨loaded, outcome, isEnded, settled_stays coherent advances settled, ?_⟩
    rcases awaits with joined | ⟨owns, rfl⟩
    · obtain ⟨found, stage, isLoad, sameKey⟩ := coherent.joined id request owner joined
      cases isLoad.symm.trans settled
      exact sameKey
    · obtain ⟨stage, isLoad⟩ := coherent.owned owner request owns
      cases isLoad.symm.trans settled
      rfl

theorem run_awaitsLoad {state : State Cache Value Error} {id owner : Nat}
    {request : Request Cache} (events : List (Event Cache Value Error))
    (coherent : Coherent state.flight) (awaits : AwaitsLoad state.flight id request owner) :
    AwaitsLoad (run step state events).flight id request owner ∨
      EndsWithLoad (run step state events).flight id request owner := by
  have atEnd :=
    @run_invariant_of_step _ _ (step : State Cache Value Error → _ → _)
      (fun state => Coherent state.flight ∧
        (AwaitsLoad state.flight id request owner ∨ EndsWithLoad state.flight id request owner))
      (by
        rintro state event ⟨coherent, awaitsOrEnds⟩
        refine ⟨step_coherent state event coherent, ?_⟩
        rcases step_advances state event with same | advances
        · rw [same]
          exact awaitsOrEnds
        · rcases awaitsOrEnds with awaits | ends
          · exact awaitsLoad_stays coherent advances awaits
          · exact Or.inr (endsWithLoad_stays coherent advances ends))
      state events ⟨coherent, Or.inl awaits⟩
  exact atEnd.2

/-! ## Progress -/

/-- A call that awaits a load which has settled ends with it when it goes on. -/
theorem proceed_ends {state : State Cache Value Error} {id owner : Nat}
    {request loaded : Request Cache} {outcome : Except Error Value}
    (coherent : Coherent state.flight) (awaits : AwaitsLoad state.flight id request owner)
    (settled : state.flight.loads owner = some ⟨loaded, .settled outcome⟩) :
    (step state (.proceed id)).flight.calls id = .ended request owner outcome := by
  have isOutcome : state.outcome owner = some outcome := by
    unfold State.outcome
    rw [settled]
  dsimp only [step]
  unfold State.proceed
  rcases awaits with joined | ⟨owns, rfl⟩
  · simp only [joined, isOutcome]
    exact calls_setPoint_self state.flight id _
  · simp only [owns, isOutcome]
    rw [flight_withFlight, finish_eq (coherent.registered owner request owns)]
    exact calls_setPoint_self state.flight owner _

theorem run_ended {state : State Cache Value Error} {id owner : Nat} {request : Request Cache}
    {outcome : Except Error Value} (events : List (Event Cache Value Error))
    (coherent : Coherent state.flight)
    (isEnded : state.flight.calls id = .ended request owner outcome) :
    (run step state events).flight.calls id = .ended request owner outcome := by
  have atEnd :=
    @run_invariant_of_step _ _ (step : State Cache Value Error → _ → _)
      (fun state => Coherent state.flight ∧
        state.flight.calls id = .ended request owner outcome)
      (by
        rintro state event ⟨coherent, isEnded⟩
        refine ⟨step_coherent state event coherent, ?_⟩
        rcases step_advances state event with same | advances
        · rw [same]
          exact isEnded
        · exact ended_stays coherent advances isEnded)
      state events ⟨coherent, isEnded⟩
  exact atEnd.2

/-- What a load does when what it waits for answers: the loader, the cache's
`set`, the telemetry. -/
structure LoadsGoOn (state : State Cache Value Error) : Prop where
  loading : ∀ owner request outcome now,
    state.flight.loads owner = some ⟨request, .loading⟩ →
      (step state (.loadSettles owner outcome now)).flight.loads owner =
          some ⟨request, .settled outcome⟩ ∨
        ∃ value, outcome = .ok value ∧
          (step state (.loadSettles owner outcome now)).flight.loads owner =
            some ⟨request, .setting value⟩
  setting : ∀ owner request value threw now,
    state.flight.loads owner = some ⟨request, .setting value⟩ →
      (step state (.setReplies owner threw now)).flight.loads owner =
        some ⟨request, if threw then .reporting value else .settled (.ok value)⟩
  reporting : ∀ owner request value,
    state.flight.loads owner = some ⟨request, .reporting value⟩ →
      (step state (.reported owner)).flight.loads owner =
        some ⟨request, .settled (.ok value)⟩

theorem loadsGoOn (state : State Cache Value Error) : LoadsGoOn state where
  loading := by
    intro owner request outcome now running
    simp only [step, running]
    unfold State.afterLoad
    cases outcome with
    | error error => exact Or.inl (loads_setStage_self _ owner request _)
    | ok value =>
        dsimp only
        split
        · exact Or.inr ⟨value, rfl, loads_setStage_self _ owner request _⟩
        · exact Or.inl (loads_setStage_self _ owner request _)
  setting := by
    intro owner request value threw now running
    simp only [step, running]
    unfold State.afterSet
    cases threw with
    | true =>
        rw [if_pos rfl, if_pos rfl, flight_record]
        exact loads_setStage_self _ owner request _
    | false =>
        rw [if_neg Bool.false_ne_true, if_neg Bool.false_ne_true]
        exact loads_setStage_self _ owner request _
  reporting := by
    intro owner request value running
    simp only [step, running]
    exact loads_setStage_self _ owner request _

/-- Whoever has ended with a load has awaited it. -/
theorem awaited_of_loadOutcome (breakers : Nat → CacheCircuitBreaker) {id owner : Nat}
    {request : Request Cache} {outcome : Except Error Value}
    (events : List (Event Cache Value Error))
    (isEnd : ((run step (initial breakers) events).flight.calls id).loadOutcome =
      some (request, owner, outcome)) :
    ∃ prior, prior <+: events ∧
      AwaitsLoad (run step (initial breakers) prior).flight id request owner := by
  obtain ⟨prior, event, isPrefix, notYet, becomes⟩ :=
    @exists_step_of_holds _ _ step
      (fun state : State Cache Value Error =>
        (state.flight.calls id).loadOutcome = some (request, owner, outcome))
      (initial breakers) events (Option.some_ne_none _ ·.symm) isEnd
  refine ⟨prior, (List.prefix_append prior [event]).trans isPrefix, ?_⟩
  rcases step_advances (run step (initial breakers) prior) event with same | advances
  · rw [same] at becomes
    exact absurd becomes notYet
  · rcases call_cases (run_coherent breakers prior) advances id with
      same | ⟨_, noOutcome⟩ | ⟨other, otherOwner, loaded, settled, awaits, _, isEnded⟩
    · rw [same] at becomes
      exact absurd becomes notYet
    · rw [noOutcome] at becomes
      cases becomes
    · rw [isEnded, loadOutcome_ended] at becomes
      cases becomes
      exact awaits

/-- The load of the call is of the key and has not settled. -/
def LoadInProgress (flight : Flight Cache Value Error) (key : String) (owner : Nat) : Prop :=
  ∃ request stage, flight.loads owner = some ⟨request, stage⟩ ∧ stage.InProgress ∧
    request.key = key

theorem loadInProgress_unique {flight : Flight Cache Value Error} (coherent : Coherent flight)
    {key : String} {owner other : Nat} (loads : LoadInProgress flight key owner)
    (otherLoads : LoadInProgress flight key other) : owner = other := by
  obtain ⟨request, stage, isLoad, inProgress, rfl⟩ := loads
  obtain ⟨otherRequest, otherStage, isOther, otherInProgress, sameKey⟩ := otherLoads
  have entry := coherent.registered owner request (coherent.running _ _ _ isLoad inProgress)
  have otherEntry :=
    coherent.registered other otherRequest (coherent.running _ _ _ isOther otherInProgress)
  rw [sameKey, entry] at otherEntry
  exact Option.some.inj otherEntry

/-- Single flight: at most one load of a key is in progress, whoever awaits a
load ends as it does, at the latest when it goes on after the load has settled,
and a call rejects only with the rejection of a load it has awaited. -/
theorem cacheAside_singleFlight (breakers : Nat → CacheCircuitBreaker)
    (events : List (Event Cache Value Error)) :
    (∀ key owner other,
      LoadInProgress (run step (initial breakers) events).flight key owner →
        LoadInProgress (run step (initial breakers) events).flight key other →
          owner = other) ∧
      (∀ prior, prior <+: events → ∀ id request owner,
        AwaitsLoad (run step (initial breakers) prior).flight id request owner →
          AwaitsLoad (run step (initial breakers) events).flight id request owner ∨
            EndsWithLoad (run step (initial breakers) events).flight id request owner) ∧
      (∀ id request owner loaded outcome,
        AwaitsLoad (run step (initial breakers) events).flight id request owner →
          (run step (initial breakers) events).flight.loads owner =
              some ⟨loaded, .settled outcome⟩ →
            ∀ later, (run step (initial breakers) (events ++ .proceed id :: later)).flight.calls
              id = .ended request owner outcome) ∧
      LoadsGoOn (run step (initial breakers) events) ∧
      (∀ id request owner error,
        (run step (initial breakers) events).flight.calls id = .rejected request owner error →
          EndsWithLoad (run step (initial breakers) events).flight id request owner ∧
            ∃ prior, prior <+: events ∧
              AwaitsLoad (run step (initial breakers) prior).flight id request owner) := by
  have coherent := run_coherent breakers events
  refine ⟨?_, ?_, ?_, loadsGoOn _, ?_⟩
  · intro key owner other loads otherLoads
    exact loadInProgress_unique coherent loads otherLoads
  · rintro prior ⟨rest, rfl⟩ id request owner awaits
    rw [run_append]
    exact run_awaitsLoad rest (run_coherent breakers prior) awaits
  · intro id request owner loaded outcome awaits settled later
    rw [run_append]
    exact run_ended later (step_coherent _ (.proceed id) coherent)
      (proceed_ends coherent awaits settled)
  · intro id request owner error isRejected
    have isEnd : ((run step (initial breakers) events).flight.calls id).loadOutcome =
        some (request, owner, .error error) := by
      rw [isRejected]
      rfl
    obtain ⟨loaded, settled, sameKey⟩ := coherent.ended id request owner _ isEnd
    exact ⟨⟨loaded, .error error, isRejected, settled, sameKey⟩,
      awaited_of_loadOutcome breakers events isEnd⟩

end PlatformArchitecture.PlatformSdk.CacheAside
