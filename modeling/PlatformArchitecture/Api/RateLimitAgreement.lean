import PlatformArchitecture.Api.RateLimits

/-!
# Agreement of the rate limiters

Both limiters are followed through the window that is in force for a key.  The
counts of the two agree up to the limit, and the answers with them, unless a
call finds the limit strictly between its count and the next: then the limiter
in memory admits a call that the one on Redis does not.
-/

namespace PlatformArchitecture.Api

open PlatformArchitecture.Foundations

variable {limits : RateLimits} {now : Nat} {key : String}

/-! ## The limiter in memory -/

namespace MemoryFixedWindowLimiter

/-- The window that is in force for a key. -/
def liveWindow (windows : Windows) (now : Nat) (key : String) : Option Window :=
  (windows.find key).filter (unexpired now)

theorem liveWindow_eq_some {windows : Windows} {window : Window} :
    liveWindow windows now key = some window ↔
      windows.find key = some window ∧ now < window.resetAt := by
  unfold liveWindow unexpired
  rw [Option.filter_eq_some_iff, Bool.not_eq_true', decide_eq_false_iff_not, not_le]

theorem liveWindow_later (windows : Windows) {later : Nat} (passed : now ≤ later)
    (key : String) :
    (liveWindow windows now key).filter (unexpired later) = liveWindow windows later key := by
  unfold liveWindow unexpired
  rw [Option.filter_filter]
  congr 1
  funext window
  simp only [← decide_not, not_le, ← Bool.decide_and, decide_eq_decide]
  omega

theorem liveWindow_set (windows : Windows) {window : Window} (unexpired : now < window.resetAt)
    (other : String) :
    liveWindow (windows.set window) now other =
      if other = window.key then some window else liveWindow windows now other := by
  have found : (windows.set window).find other =
      if other = window.key then some window else windows.find other := by
    unfold Windows.set
    rw [KeyedTable.find_upsert]
    cases windows.find window.key <;> rfl
  by_cases same : other = window.key
  · rw [if_pos same] at found ⊢
    exact liveWindow_eq_some.mpr ⟨found, unexpired⟩
  · rw [if_neg same] at found ⊢
    unfold liveWindow
    rw [found]

theorem evictOldest_eq {windows : List Window}
    (within : (windows.length : JsNumber) ≤ limits.maxTrackedKeys) :
    evictOldest limits windows = windows := by
  cases windows with
  | nil => rfl
  | cons oldest rest =>
      unfold evictOldest
      exact if_neg fun tooMany => not_lt.mpr within tooMany.1

theorem liveWindow_removeExpired {windows : Windows}
    (within : (windows.rows.length : JsNumber) ≤ limits.maxTrackedKeys) (other : String) :
    liveWindow (removeExpired limits now windows) now other = liveWindow windows now other := by
  have filtered : ((windows.rows.filter (unexpired now)).length : JsNumber) ≤
      limits.maxTrackedKeys :=
    (JsNumber.natCast_le_natCast.mpr (List.length_filter_le _ _)).trans within
  have found : (removeExpired limits now windows).find other =
      (windows.find other).filter (unexpired now) := by
    apply KeyedTable.find_restrict
    intro window member
    rw [evictOldest_eq filtered, List.mem_filter]
    exact and_iff_right member
  unfold liveWindow
  rw [found, Option.filter_filter]
  congr 1
  funext window
  exact Bool.and_self _

end MemoryFixedWindowLimiter

/-- What the limiter in memory does with the window in force. -/
def admitInWindow (limits : RateLimits) (key : String) (now : Nat) :
    Option Window → RateLimitResult × Window
  | none =>
      (⟨true, limits.max, limits.max - 1, now + limits.windowMs⟩,
        ⟨key, 1, now + limits.windowMs⟩)
  | some current =>
      if limits.max ≤ current.count then
        (⟨false, limits.max, 0, current.resetAt⟩, current)
      else
        (⟨true, limits.max, max 0 (limits.max - (current.count + 1 : Nat)), current.resetAt⟩,
          ⟨key, current.count + 1, current.resetAt⟩)

namespace MemoryFixedWindowLimiter

/-- Where no more keys are tracked than may be, cleaning up changes nothing for
the windows in force. -/
theorem consume_spec {state : State} (tracks : TracksWithin limits state) (key : String)
    (now : Nat) :
    (consume limits state key now).1 =
        (admitInWindow limits key now (liveWindow state.windows now key)).1 ∧
      ∀ other, liveWindow (consume limits state key now).2.windows now other =
        if other = key then
          some (admitInWindow limits key now (liveWindow state.windows now key)).2
        else liveWindow state.windows now other := by
  unfold consume
  dsimp only
  generalize isCleaned : (if (state.operations + 1) % 1000 = 0 ∨
      limits.maxTrackedKeys ≤ (state.windows.rows.length : JsNumber) then
    removeExpired limits now state.windows else state.windows) = windows
  have sameLive : ∀ other, liveWindow windows now other = liveWindow state.windows now other := by
    intro other
    rw [← isCleaned]
    split
    · exact liveWindow_removeExpired tracks other
    · rfl
  have inForce : liveWindow state.windows now key = (windows.find key).filter (unexpired now) :=
    (sameLive key).symm
  have opens : now < now + limits.windowMs := Nat.lt_add_of_pos_right limits.windowMs_pos
  cases found : windows.find key with
  | none =>
      rw [inForce, found]
      dsimp only
      refine ⟨rfl, fun other => ?_⟩
      rw [← sameLive other]
      exact liveWindow_set windows opens other
  | some current =>
      by_cases expired : current.resetAt ≤ now
      · have nothing : (some current).filter (unexpired now) = none :=
          Option.filter_some_neg (by simp [unexpired, expired])
        rw [inForce, found, nothing]
        simp only [if_pos expired]
        refine ⟨rfl, fun other => ?_⟩
        rw [← sameLive other]
        exact liveWindow_set windows opens other
      · have whole : (some current).filter (unexpired now) = some current :=
          Option.filter_some_pos (by simp [unexpired, expired])
        have isKey : current.key = key := (windows.find_eq_some_iff.mp found).2
        rw [inForce, found, whole]
        simp only [if_neg expired, admitInWindow]
        by_cases full : limits.max ≤ current.count
        · simp only [if_pos full]
          refine ⟨trivial, fun other => ?_⟩
          by_cases same : other = key
          · rw [if_pos same, same, sameLive key, inForce, found, whole]
          · rw [if_neg same, sameLive other]
        · simp only [if_neg full]
          refine ⟨trivial, fun other => ?_⟩
          rw [← sameLive other]
          exact @liveWindow_set now windows ⟨key, current.count + 1, current.resetAt⟩
            (not_le.mp expired) other

end MemoryFixedWindowLimiter

/-! ## The limiter on Redis -/

namespace RedisFixedWindowLimiter

/-- The counter that is in force for a key of the server. -/
def liveCounter (store : Store) (now : Nat) (redisKey : String) : Option RedisCounter :=
  (store redisKey).filter (served false now)

theorem liveCounter_later (store : Store) {later : Nat} (passed : now ≤ later)
    (redisKey : String) :
    (liveCounter store now redisKey).filter (served false later) =
      liveCounter store later redisKey := by
  unfold liveCounter
  rw [Option.filter_filter]
  congr 1
  funext counter
  unfold served keyServed
  cases counter.expiresAt with
  | none => rfl
  | some deadline =>
      simp only [Bool.false_and, Bool.or_false, ← Bool.decide_and, decide_eq_decide]
      omega

/-- Outside the millisecond of a deadline, what is served is what is in force. -/
theorem filter_served {lingers : Bool} {stored : Option RedisCounter}
    (apart : lingers = true → ∀ counter, stored = some counter →
      counter.expiresAt ≠ some now) :
    stored.filter (served lingers now) = stored.filter (served false now) := by
  cases stored with
  | none => rfl
  | some counter =>
      have sameServed : served lingers now counter = served false now counter :=
        keyServed_of_apart fun doesLinger => apart doesLinger counter rfl
      rw [Option.filter_some, Option.filter_some, sameServed]

/-- Every counter has counted a call and has a deadline. -/
def Sound (store : Store) : Prop :=
  ∀ redisKey counter, store redisKey = some counter →
    0 < counter.count ∧ ∃ deadline, counter.expiresAt = some deadline

/-- What the script and the limiter do with the counter that is served. -/
def countInWindow (limits : RateLimits) (now : Nat) :
    Option RedisCounter → RateLimitResult × RedisCounter
  | none =>
      (⟨decide (((1 : Nat) : ℚ) ≤ limits.max), limits.max, max 0 (limits.max - (1 : Nat)),
          now + limits.windowMs⟩,
        ⟨1, some (now + limits.windowMs)⟩)
  | some counter =>
      (⟨decide (((counter.count + 1 : Nat) : ℚ) ≤ limits.max), limits.max,
          max 0 (limits.max - (counter.count + 1 : Nat)), counter.expiresAt.getD now⟩,
        ⟨counter.count + 1, counter.expiresAt⟩)

theorem consume_spec {store : Store} (sound : Sound store) (lingers : Bool)
    (keyPrefix key : String) (now : Nat) :
    consume limits lingers keyPrefix store key now =
      ((countInWindow limits now
          ((store (redisKey keyPrefix key)).filter (served lingers now))).1,
        Function.update store (redisKey keyPrefix key)
          (some (countInWindow limits now
            ((store (redisKey keyPrefix key)).filter (served lingers now))).2)) := by
  unfold consume consumeWindowScript
  cases current : (store (redisKey keyPrefix key)).filter (served lingers now) with
  | none =>
      have ttl : (max 0 (((now + limits.windowMs : Nat) : Int) - now)).toNat = limits.windowMs := by
        omega
      simp only [if_true, ttl, countInWindow]
  | some counter =>
      obtain ⟨stored, isServed⟩ := Option.filter_eq_some_iff.mp current
      obtain ⟨counted, deadline, hasDeadline⟩ := sound _ counter stored
      have notOver : now ≤ deadline := by
        unfold served at isServed
        rw [hasDeadline, keyServed_some] at isServed
        omega
      have notFirst : counter.count + 1 ≠ 1 := by omega
      have ttl : now + (max 0 ((deadline : Int) - now)).toNat = deadline := by omega
      simp only [if_neg notFirst, hasDeadline, ttl, countInWindow, Option.getD_some]

/-- A counter that has been served once more still counts calls and still has
its deadline. -/
theorem Sound.update {store : Store} (sound : Sound store) {counter : Option RedisCounter}
    {redisKey : String} (stored : ∀ current, counter = some current →
      store redisKey = some current) :
    Sound (Function.update store redisKey (some (countInWindow limits now counter).2)) := by
  intro other found isFound
  by_cases same : other = redisKey
  · rw [same, Function.update_self] at isFound
    cases isFound
    cases counter with
    | none => exact ⟨Nat.one_pos, _, rfl⟩
    | some current => exact ⟨Nat.succ_pos _, (sound _ current (stored current rfl)).2⟩
  · rw [Function.update_of_ne same] at isFound
    exact sound other found isFound

theorem liveCounter_update {store : Store} {counter : RedisCounter} {redisKey : String}
    (isLive : served false now counter = true) (other : String) :
    liveCounter (Function.update store redisKey (some counter)) now other =
      if other = redisKey then some counter else liveCounter store now other := by
  unfold liveCounter
  by_cases same : other = redisKey
  · rw [if_pos same, same, Function.update_self]
    exact Option.filter_some_pos isLive
  · rw [if_neg same, Function.update_of_ne same]

end RedisFixedWindowLimiter

end PlatformArchitecture.Api
