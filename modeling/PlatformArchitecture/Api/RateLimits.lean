import PlatformArchitecture.Foundations.JsNumbers
import PlatformArchitecture.Foundations.KeyedTables
import PlatformArchitecture.Foundations.RedisKeys
import PlatformArchitecture.Foundations.Run

/-!
# Fixed-window rate limiters

The limiter in memory counts the calls it admits and compares before it counts;
the limiter on Redis counts every call and compares afterwards.  Whether Redis
still serves a key in the very millisecond of its deadline is left open.
-/

namespace PlatformArchitecture.Api

open PlatformArchitecture.Foundations

def isPositiveFinite : JsNumber → Bool
  | .finite value => decide (0 < value)
  | .infinite _ => false

/-- The checks of both constructors. -/
def checkLimits (max windowMs : JsNumber) : Except String Unit :=
  if isPositiveFinite max = false then .error "INVALID_LIMIT_MAX"
  else if isPositiveFinite windowMs = false then .error "INVALID_LIMIT_WINDOW"
  else .ok ()

/-- What both limiters are constructed with, for windows of whole milliseconds,
and the size of the one in memory. -/
structure RateLimits where
  max : ℚ
  windowMs : Nat
  maxTrackedKeys : JsNumber := (50000 : Nat)
  max_pos : 0 < max
  windowMs_pos : 0 < windowMs

/-- The constructors accept just the limits of `RateLimits`. -/
theorem checkLimits_eq_ok_iff {max : JsNumber} {windowMs : Nat} :
    checkLimits max windowMs = .ok () ↔
      ∃ limits : RateLimits, .finite limits.max = max ∧ limits.windowMs = windowMs := by
  have windowCheck : isPositiveFinite windowMs = decide (0 < windowMs) :=
    decide_eq_decide.mpr Nat.cast_pos
  unfold checkLimits
  rw [windowCheck]
  constructor
  · intro accepted
    cases max with
    | infinite negative => cases accepted
    | finite value =>
        by_cases positive : 0 < value
        · by_cases window : 0 < windowMs
          · exact ⟨⟨value, windowMs, (50000 : Nat), positive, window⟩, rfl, rfl⟩
          · simp [isPositiveFinite, positive, window] at accepted
        · simp [isPositiveFinite, positive] at accepted
  · rintro ⟨limits, rfl, rfl⟩
    simp [isPositiveFinite, limits.max_pos, limits.windowMs_pos]

structure RateLimitResult where
  allowed : Bool
  limit : ℚ
  remaining : ℚ
  resetAt : Nat
  deriving DecidableEq

/-- An entry of the map `windows`. -/
structure Window where
  key : String
  count : Nat
  resetAt : Nat
  deriving DecidableEq

abbrev Windows := KeyedTable Window.key

/-- `windows.set(key, ...)`. -/
def Windows.set (windows : Windows) (window : Window) : Windows :=
  windows.upsert (fun _stored given => given) window fun _stored _same => rfl

namespace MemoryFixedWindowLimiter

structure State where
  windows : Windows
  operations : Nat

def initial : State :=
  ⟨KeyedTable.empty, 0⟩

/-- The loop that deletes the oldest keys; it also ends at the empty key. -/
def evictOldest (limits : RateLimits) : List Window → List Window
  | [] => []
  | oldest :: rest =>
      if limits.maxTrackedKeys < ((rest.length + 1 : Nat) : JsNumber) ∧ oldest.key ≠ "" then
        evictOldest limits rest
      else
        oldest :: rest

def unexpired (now : Nat) (window : Window) : Bool :=
  !decide (window.resetAt ≤ now)

theorem evictOldest_sublist (limits : RateLimits) (windows : List Window) :
    (evictOldest limits windows).Sublist windows := by
  induction windows with
  | nil => exact List.Sublist.refl []
  | cons oldest rest inductionHypothesis =>
      unfold evictOldest
      split
      · exact inductionHypothesis.cons oldest
      · exact List.Sublist.refl _

def removeExpired (limits : RateLimits) (now : Nat) (windows : Windows) : Windows :=
  windows.restrict (evictOldest limits (windows.rows.filter (unexpired now)))
    ((evictOldest_sublist limits _).trans List.filter_sublist)

def consume (limits : RateLimits) (state : State) (key : String) (now : Nat) :
    RateLimitResult × State :=
  let operations := state.operations + 1
  let windows :=
    if operations % 1000 = 0 ∨
        limits.maxTrackedKeys ≤ (state.windows.rows.length : JsNumber) then
      removeExpired limits now state.windows
    else
      state.windows
  let opened : RateLimitResult × State :=
    (⟨true, limits.max, limits.max - 1, now + limits.windowMs⟩,
      ⟨windows.set ⟨key, 1, now + limits.windowMs⟩, operations⟩)
  match windows.find key with
  | none => opened
  | some current =>
      if current.resetAt ≤ now then
        opened
      else if limits.max ≤ current.count then
        (⟨false, limits.max, 0, current.resetAt⟩, ⟨windows, operations⟩)
      else
        let count := current.count + 1
        (⟨true, limits.max, max 0 (limits.max - count), current.resetAt⟩,
          ⟨windows.set ⟨key, count, current.resetAt⟩, operations⟩)

/-- The limiter tracks no more keys than it may. -/
def TracksWithin (limits : RateLimits) (state : State) : Prop :=
  (state.windows.rows.length : JsNumber) ≤ limits.maxTrackedKeys

instance decidableTracksWithin (limits : RateLimits) (state : State) :
    Decidable (TracksWithin limits state) :=
  inferInstanceAs (Decidable (_ ≤ _))

end MemoryFixedWindowLimiter

/-- A counter in Redis; its key expires at the deadline, if it has one. -/
structure RedisCounter where
  count : Nat
  expiresAt : Option Nat

namespace RedisFixedWindowLimiter

/-- The keys of the server. -/
abbrev Store := String → Option RedisCounter

/-- Whether a counter is still served; `lingers` says whether it is in the very
millisecond of its deadline. -/
def served (lingers : Bool) (now : Nat) (counter : RedisCounter) : Bool :=
  keyServed lingers now counter.expiresAt

/-- `INCR`, `PEXPIRE` on the first count, `PTTL`. -/
def consumeWindowScript (lingers : Bool) (now : Nat) (key : String) (ms : Nat) (store : Store) :
    (Nat × Int) × Store :=
  let incremented : RedisCounter :=
    match (store key).filter (served lingers now) with
    | some counter => { counter with count := counter.count + 1 }
    | none => ⟨1, none⟩
  let counted : RedisCounter :=
    if incremented.count = 1 then { incremented with expiresAt := some (now + ms) }
    else incremented
  let ttl : Int :=
    match counted.expiresAt with
    | some deadline => deadline - now
    | none => -1
  ((counted.count, ttl), Function.update store key (some counted))

def redisKey (keyPrefix key : String) : String :=
  keyPrefix ++ ":" ++ key

def consume (limits : RateLimits) (lingers : Bool) (keyPrefix : String) (store : Store)
    (key : String) (now : Nat) : RateLimitResult × Store :=
  let raw := consumeWindowScript lingers now (redisKey keyPrefix key) limits.windowMs store
  let count := raw.1.1
  let ttl := max 0 raw.1.2
  (⟨decide ((count : ℚ) ≤ limits.max), limits.max, max 0 (limits.max - count),
      now + ttl.toNat⟩,
    raw.2)

end RedisFixedWindowLimiter

end PlatformArchitecture.Api
