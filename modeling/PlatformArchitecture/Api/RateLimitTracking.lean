import PlatformArchitecture.Api.RateLimitAgreement

/-!
# The number of windows in memory

The limiter cleans up before it opens a window, and only down to the number of
keys that it may track, so a window that is opened when that many stand is one
too many; the next cleanup then deletes the oldest, whoever it belongs to.  As
long as every call finds its own key or room for it, nothing is evicted.
-/

namespace PlatformArchitecture.Api.MemoryFixedWindowLimiter

open PlatformArchitecture.Foundations

variable {limits : RateLimits} {state : State}

/-- A call of `consume` and the time of it. -/
structure Consumption where
  key : String
  now : Nat

def step (limits : RateLimits) (state : State) (call : Consumption) : State :=
  (consume limits state call.key call.now).2

/-- The call starts with a cleanup. -/
def CleansUp (limits : RateLimits) (state : State) : Prop :=
  (state.operations + 1) % 1000 = 0 ∨
    limits.maxTrackedKeys ≤ (state.windows.rows.length : JsNumber)

instance (limits : RateLimits) (state : State) : Decidable (CleansUp limits state) :=
  inferInstanceAs (Decidable (_ ∨ _))

/-- The windows after the cleanup, if there is one. -/
def cleaned (limits : RateLimits) (state : State) (now : Nat) : Windows :=
  if CleansUp limits state then removeExpired limits now state.windows else state.windows

/-- After the call no more windows are tracked than may be, and the window of
its key was not evicted while it was active. -/
structure KeepsBound (limits : RateLimits) (state : State) (call : Consumption) : Prop where
  within : TracksWithin limits (step limits state call)
  own : ∀ window, state.windows.find call.key = some window → call.now < window.resetAt →
    window ∈ (cleaned limits state call.now).rows

/-- The windows that a cleanup would leave if it deleted the expired ones
only. -/
def standing (limits : RateLimits) (state : State) (now : Nat) : List Window :=
  if CleansUp limits state then state.windows.rows.filter (unexpired now)
  else state.windows.rows

/-- The call finds a window of its key, or fewer windows than may be tracked. -/
def HasRoom (limits : RateLimits) (state : State) (call : Consumption) : Prop :=
  (∃ window ∈ standing limits state call.now, window.key = call.key) ∨
    (((standing limits state call.now).length + 1 : Nat) : JsNumber) ≤ limits.maxTrackedKeys

instance (limits : RateLimits) (state : State) (call : Consumption) :
    Decidable (HasRoom limits state call) :=
  inferInstanceAs (Decidable (_ ∨ _))

/-- A call opens a window where none is left of its key. -/
theorem length_consume (limits : RateLimits) (state : State) (key : String) (now : Nat) :
    (consume limits state key now).2.windows.rows.length =
      if ((cleaned limits state now).find key).isSome then
        (cleaned limits state now).rows.length
      else (cleaned limits state now).rows.length + 1 := by
  have isCleaned : (if (state.operations + 1) % 1000 = 0 ∨
        limits.maxTrackedKeys ≤ (state.windows.rows.length : JsNumber) then
      removeExpired limits now state.windows else state.windows) = cleaned limits state now := rfl
  have length_set : ∀ count resetAt,
      ((cleaned limits state now).set ⟨key, count, resetAt⟩).rows.length =
        if ((cleaned limits state now).find key).isSome then
          (cleaned limits state now).rows.length
        else (cleaned limits state now).rows.length + 1 := by
    intro count resetAt
    exact KeyedTable.length_upsert (cleaned limits state now)
  unfold consume
  dsimp only
  rw [isCleaned]
  cases found : (cleaned limits state now).find key with
  | none =>
      rw [length_set, found]
  | some current =>
      dsimp only
      split
      · rw [length_set, found]
      · split
        · rfl
        · rw [length_set, found]

/-- Where no more windows stand than may, a cleanup evicts none. -/
theorem cleaned_rows (tracks : TracksWithin limits state) (now : Nat) :
    (cleaned limits state now).rows = standing limits state now := by
  unfold cleaned standing
  split
  · have filtered : ((state.windows.rows.filter (unexpired now)).length : JsNumber) ≤
        limits.maxTrackedKeys :=
      (JsNumber.natCast_le_natCast.mpr (List.length_filter_le _ _)).trans tracks
    exact evictOldest_eq filtered
  · rfl

theorem length_standing_le (limits : RateLimits) (state : State) (now : Nat) :
    (standing limits state now).length ≤ state.windows.rows.length := by
  unfold standing
  split
  · exact List.length_filter_le _ _
  · exact le_refl _

/-- A call keeps the bound exactly where it has room. -/
theorem tracksWithin_step_iff (tracks : TracksWithin limits state) (call : Consumption) :
    TracksWithin limits (step limits state call) ↔ HasRoom limits state call := by
  have rows := cleaned_rows tracks call.now
  have fits : ((standing limits state call.now).length : JsNumber) ≤ limits.maxTrackedKeys :=
    (JsNumber.natCast_le_natCast.mpr (length_standing_le limits state call.now)).trans tracks
  unfold TracksWithin step HasRoom
  rw [length_consume, rows]
  cases found : (cleaned limits state call.now).find call.key with
  | none =>
      have absent : ¬ ∃ window ∈ standing limits state call.now, window.key = call.key := by
        rintro ⟨window, member, same⟩
        rw [← rows] at member
        exact (KeyedTable.find_eq_none_iff _).mp found window member same
      simp [absent]
  | some window =>
      obtain ⟨member, same⟩ := (KeyedTable.find_eq_some_iff _).mp found
      rw [rows] at member
      have present : ∃ other ∈ standing limits state call.now, other.key = call.key :=
        ⟨window, member, same⟩
      simp [present, fits]

/-- Where no more windows stand than may, an active one survives its own
call. -/
theorem own_window_kept (tracks : TracksWithin limits state) (call : Consumption)
    {window : Window} (found : state.windows.find call.key = some window)
    (active : call.now < window.resetAt) :
    window ∈ (cleaned limits state call.now).rows := by
  have member := ((KeyedTable.find_eq_some_iff _).mp found).1
  rw [cleaned_rows tracks]
  unfold standing
  split
  · refine List.mem_filter.mpr ⟨member, ?_⟩
    simpa [unexpired] using active
  · exact member

theorem keepsBound_iff_hasRoom (tracks : TracksWithin limits state) (call : Consumption) :
    KeepsBound limits state call ↔ HasRoom limits state call := by
  constructor
  · intro keeps
    exact (tracksWithin_step_iff tracks call).mp keeps.within
  · intro room
    refine ⟨(tracksWithin_step_iff tracks call).mpr room, ?_⟩
    intro window found active
    exact own_window_kept tracks call found active

/-- The calls of a run all keep the bound and their own windows exactly where
every one of them has room. -/
theorem everyCall_keepsBound_iff (limits : RateLimits)
    (positive : ((0 : Nat) : JsNumber) < limits.maxTrackedKeys) (calls : List Consumption) :
    EveryStep (step limits) (KeepsBound limits) initial calls ↔
      EveryStep (step limits) (HasRoom limits) initial calls := by
  have start : TracksWithin limits initial := positive.le
  constructor
  · refine everyStep_of_invariant ?_ ?_ start
    · intro state call _tracks keeps
      exact keeps.within
    · intro state call tracks keeps
      exact (keepsBound_iff_hasRoom tracks call).mp keeps
  · refine everyStep_of_invariant ?_ ?_ start
    · intro state call tracks room
      exact (tracksWithin_step_iff tracks call).mpr room
    · intro state call tracks room
      exact (keepsBound_iff_hasRoom tracks call).mpr room

/-- Ten calls a minute for each key, and one tracked key. -/
def oneKey : RateLimits :=
  ⟨10, 60000, (1 : Nat), by decide, by decide⟩

theorem everyCall_keepsBound_oneKey :
    EveryStep (step oneKey) (KeepsBound oneKey) initial
        [⟨"first", 0⟩, ⟨"first", 1000⟩, ⟨"second", 60000⟩] ↔
      EveryStep (step oneKey) (HasRoom oneKey) initial
        [⟨"first", 0⟩, ⟨"first", 1000⟩, ⟨"second", 60000⟩] :=
  everyCall_keepsBound_iff oneKey (by decide +kernel) _

/-- The second key is one too many, and the first key then loses its window to
its own call. -/
theorem oneKey_exceeded :
    ¬ ∀ (limits : RateLimits), ((0 : Nat) : JsNumber) < limits.maxTrackedKeys →
        ∀ calls : List Consumption,
          EveryStep (step limits) (KeepsBound limits) initial calls := by
  intro keepsBound
  have kept := keepsBound oneKey (by decide +kernel) [⟨"first", 0⟩, ⟨"second", 0⟩]
  have within : TracksWithin oneKey
      (step oneKey (step oneKey initial ⟨"first", 0⟩) ⟨"second", 0⟩) := kept.2.1.within
  revert within
  decide +kernel

end PlatformArchitecture.Api.MemoryFixedWindowLimiter
