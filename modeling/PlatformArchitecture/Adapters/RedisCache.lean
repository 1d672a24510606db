import PlatformArchitecture.Foundations.RedisKeys
import PlatformArchitecture.PlatformSdk.MemoryCache

/-!
# The cache on Redis and the cache in memory

Both adapters implement `CachePort`.  The one on Redis keeps JSON texts under a
prefix and leaves expiry to the server, which may still serve a key in the very
millisecond of its deadline; the one in memory keeps the values themselves and
drops those used longest ago.  Given the same calls, they are compared answer by
answer.
-/

namespace PlatformArchitecture.Adapters

open PlatformArchitecture.Foundations
open PlatformArchitecture.PlatformSdk
open MemoryCacheAdapter (Call Past Stored TimedCall standing usedSince Mirrors mirrors_fresh)

/-- A text that the server keeps, known by what it parses to, and its deadline. -/
structure RedisText where
  parsed : Json
  expiresAt : Option Nat

/-- The texts of the server under their keys. -/
abbrev RedisTexts :=
  String → Option RedisText

/-- Whether the server still has a text; `lingers` says so of one in the very
millisecond of its deadline. -/
def RedisText.served (lingers : Bool) (now : Nat) (text : RedisText) : Bool :=
  keyServed lingers now text.expiresAt

namespace RedisCacheAdapter

/-- The seconds that the server accepts after `EX` at a time: a positive whole
number whose deadline fits into 64 bits. -/
def expireSeconds (now : Nat) : JsNumber → Option Nat
  | .finite seconds =>
      if seconds.den = 1 ∧ 0 < seconds.num ∧ (now : Int) + seconds.num * 1000 < 2 ^ 63 then
        some seconds.num.toNat
      else
        none
  | .infinite _ => none

/-- `redis.get(prefix+key)`, parsed. -/
def get (lingers : Bool) (now : Nat) (keyPrefix key : String) (texts : RedisTexts) : Option Json :=
  ((texts (keyPrefix ++ key)).filter (RedisText.served lingers now)).map RedisText.parsed

/-- `set`: with `EX` unless the time to live is missing or zero, or nothing where
the server rejects it. -/
def set (now : Nat) (keyPrefix key : String) (value : Json) (ttlSeconds : Option JsNumber)
    (texts : RedisTexts) : Option RedisTexts :=
  let written (expiresAt : Option Nat) : RedisTexts :=
    Function.update texts (keyPrefix ++ key) (some ⟨value.reparsed, expiresAt⟩)
  match ttlSeconds.filter (· ≠ .finite 0) with
  | none => some (written none)
  | some given => (expireSeconds now given).map fun seconds => written (some (now + seconds * 1000))

/-- `redis.del(prefix+key)`. -/
def delete (keyPrefix key : String) (texts : RedisTexts) : RedisTexts :=
  Function.update texts (keyPrefix ++ key) none

end RedisCacheAdapter

/-! ## The same calls to both -/

/-- Both caches under one clock. -/
structure CachePair where
  memory : MemoryCacheAdapter.World Json
  redis : RedisTexts

namespace CachePair

/-- Two caches that were constructed at a time. -/
def fresh (clock : Nat) : CachePair :=
  ⟨MemoryCacheAdapter.World.fresh clock, fun _ => none⟩

/-- The server after a call; what it rejects leaves it as it is. -/
def redisAfter (keyPrefix : String) (now : Nat) (texts : RedisTexts) : Call Json → RedisTexts
  | .get _ => texts
  | .set key value ttlSeconds =>
      (RedisCacheAdapter.set now keyPrefix key value (ttlSeconds.map Subtype.val) texts).getD texts
  | .delete key => RedisCacheAdapter.delete keyPrefix key texts

def step (cache : MemoryCacheAdapter) (keyPrefix : String) (pair : CachePair)
    (timed : TimedCall Json) : CachePair :=
  ⟨MemoryCacheAdapter.step cache pair.memory timed,
    redisAfter keyPrefix (pair.memory.clock + timed.elapsed) pair.redis timed.call⟩

/-- The server accepts the time to live of the call, if it has one. -/
def AcceptsTtl (pair : CachePair) (timed : TimedCall Json) : Prop :=
  match timed.call with
  | .set _ _ (some ttl) => ttl.val = .finite 0 ∨
      (RedisCacheAdapter.expireSeconds (pair.memory.clock + timed.elapsed) ttl.val).isSome = true
  | _ => True

end CachePair

/-! ## Deadlines -/

namespace RedisCacheAdapter

theorem expireSeconds_eq_some {now seconds : Nat} {given : JsNumber}
    (accepted : expireSeconds now given = some seconds) :
    given = .finite (seconds : ℚ) ∧ 0 < seconds := by
  cases given with
  | infinite negative => cases accepted
  | finite value =>
      by_cases whole : value.den = 1 ∧ 0 < value.num ∧ (now : Int) + value.num * 1000 < 2 ^ 63
      · rw [expireSeconds, if_pos whole] at accepted
        obtain ⟨isWhole, positive, _⟩ := whole
        have isSeconds := Option.some.inj accepted
        have cast : ((seconds : Nat) : Int) = value.num := by omega
        refine ⟨?_, by omega⟩
        rw [← Int.cast_natCast, cast]
        exact congrArg JsNumber.finite ((Rat.den_eq_one_iff value).mp isWhole).symm
      · rw [expireSeconds, if_neg whole] at accepted
        cases accepted

/-- What the server keeps of a `set` that it has accepted. -/
def Keeps (stored : Stored Json) (text : RedisText) : Prop :=
  text.parsed = stored.value.reparsed ∧
    ∀ now, stored.Fresh now ↔ ∀ deadline ∈ text.expiresAt, now < deadline

theorem fresh_iff {value : Json} {setAt seconds now : Nat}
    {ttl : MemoryCacheAdapter.Ttl} (isSeconds : ttl.val = .finite (seconds : ℚ))
    (positive : 0 < seconds) :
    (⟨value, setAt, some ttl⟩ : Stored Json).Fresh now ↔ now < setAt + seconds * 1000 := by
  have nonzero : ttl.val ≠ .finite 0 := by
    rw [isSeconds]
    intro zero
    have isZero : (seconds : ℚ) = 0 := JsNumber.finite.inj zero
    exact positive.ne' (Nat.cast_eq_zero.mp isZero)
  have isDeadline : JsNumber.after setAt (MemoryCacheAdapter.milliseconds ttl.val) =
      ((setAt + seconds * 1000 : Nat) : JsNumber) := by
    rw [isSeconds]
    change JsNumber.finite _ = JsNumber.finite _
    push_cast
    rfl
  have before : (now : JsNumber) < JsNumber.after setAt (MemoryCacheAdapter.milliseconds ttl.val) ↔
      now < setAt + seconds * 1000 := by
    rw [isDeadline, ← not_le, ← not_le, JsNumber.natCast_le_natCast]
  constructor
  · intro fresh
    exact before.mp (fresh ttl rfl nonzero)
  · intro isBefore other isOther _
    cases isOther
    exact before.mpr isBefore

/-- A `set` that the server accepts leaves its value, with the deadline that the
cache in memory gives it. -/
theorem set_of_accepted {now : Nat} (keyPrefix key : String) (value : Json)
    (ttlSeconds : Option MemoryCacheAdapter.Ttl) (texts : RedisTexts)
    (accepted : ∀ ttl ∈ ttlSeconds, ttl.val = .finite 0 ∨
      (expireSeconds now ttl.val).isSome = true) :
    ∃ text, Keeps ⟨value, now, ttlSeconds⟩ text ∧
      set now keyPrefix key value (ttlSeconds.map Subtype.val) texts =
        some (Function.update texts (keyPrefix ++ key) (some text)) := by
  cases ttlSeconds with
  | none =>
      refine ⟨⟨value.reparsed, none⟩, ⟨rfl, ?_⟩, rfl⟩
      simp [Stored.Fresh]
  | some ttl =>
      by_cases zero : ttl.val = .finite 0
      · refine ⟨⟨value.reparsed, none⟩, ⟨rfl, ?_⟩, ?_⟩
        · simp [Stored.Fresh, zero]
        · rw [Option.map_some, zero]
          rfl
      · rcases accepted ttl rfl with isZero | isAccepted
        · exact absurd isZero zero
        · obtain ⟨seconds, isSeconds⟩ := Option.isSome_iff_exists.mp isAccepted
          obtain ⟨isWhole, positive⟩ := expireSeconds_eq_some isSeconds
          refine ⟨⟨value.reparsed, some (now + seconds * 1000)⟩, ⟨rfl, ?_⟩, ?_⟩
          · intro moment
            rw [fresh_iff isWhole positive]
            simp
          · rw [set, Option.map_some, Option.filter_some_pos (by simpa using zero)]
            simp only [isSeconds, Option.map_some]

end RedisCacheAdapter

/-! ## The answers of both -/

/-- The server has a text exactly for what stands in the history. -/
def Corresponds : Option (Stored Json) → Option RedisText → Prop
  | none, none => True
  | some stored, some text => RedisCacheAdapter.Keeps stored text
  | _, _ => False

/-- Both caches are true to the one history. -/
structure CachePair.Faithful (cache : MemoryCacheAdapter) (keyPrefix : String)
    (pair : CachePair) : Prop where
  memory : Mirrors cache pair.memory
  redis : ∀ key, Corresponds (standing key pair.memory.history) (pair.redis (keyPrefix ++ key))

namespace CachePair

variable {cache : MemoryCacheAdapter} {keyPrefix : String} {pair : CachePair}

theorem faithful_fresh (cache : MemoryCacheAdapter) (keyPrefix : String) {clock : Nat}
    (positive : 0 < clock) : (fresh clock).Faithful cache keyPrefix where
  memory := mirrors_fresh cache positive
  redis _key := trivial

theorem redisKey_ne {key other : String} (different : other ≠ key) :
    keyPrefix ++ other ≠ keyPrefix ++ key :=
  fun same => different ((String.append_right_inj _).mp same)

theorem Faithful.step (faithful : pair.Faithful cache keyPrefix) (timed : TimedCall Json)
    (accepts : AcceptsTtl pair timed) :
    (pair.step cache keyPrefix timed).Faithful cache keyPrefix := by
  refine ⟨faithful.memory.step timed, ?_⟩
  obtain ⟨elapsed, call⟩ := timed
  intro other
  cases call with
  | get key => exact faithful.redis other
  | set key value ttlSeconds =>
      have isAccepted : ∀ ttl ∈ ttlSeconds, ttl.val = .finite 0 ∨
          (RedisCacheAdapter.expireSeconds (pair.memory.clock + elapsed)
            ttl.val).isSome = true := by
        intro ttl isTtl
        rw [Option.mem_def] at isTtl
        subst isTtl
        exact accepts
      obtain ⟨text, keeps, written⟩ :=
        RedisCacheAdapter.set_of_accepted keyPrefix key value ttlSeconds pair.redis isAccepted
      have redis : (pair.step cache keyPrefix ⟨elapsed, .set key value ttlSeconds⟩).redis =
          Function.update pair.redis (keyPrefix ++ key) (some text) := by
        simp only [CachePair.step, redisAfter, written, Option.getD_some]
      rw [redis]
      by_cases same : other = key
      · subst same
        have isStanding : standing other
            (pair.step cache keyPrefix ⟨elapsed, .set other value ttlSeconds⟩).memory.history =
              some ⟨value, pair.memory.clock + elapsed, ttlSeconds⟩ :=
          if_pos rfl
        rw [Function.update_self, isStanding]
        exact keeps
      · have isStanding : standing other
            (pair.step cache keyPrefix ⟨elapsed, .set key value ttlSeconds⟩).memory.history =
              standing other pair.memory.history :=
          if_neg (Ne.symm same)
        rw [Function.update_of_ne (redisKey_ne same), isStanding]
        exact faithful.redis other
  | delete key =>
      have redis : (pair.step cache keyPrefix ⟨elapsed, .delete key⟩).redis =
          Function.update pair.redis (keyPrefix ++ key) none := rfl
      rw [redis]
      by_cases same : other = key
      · subst same
        have isStanding : standing other
            (pair.step cache keyPrefix ⟨elapsed, .delete other⟩).memory.history = none :=
          if_pos rfl
        rw [Function.update_self, isStanding]
        trivial
      · have isStanding : standing other
            (pair.step cache keyPrefix ⟨elapsed, .delete key⟩).memory.history =
              standing other pair.memory.history :=
          if_neg (Ne.symm same)
        rw [Function.update_of_ne (redisKey_ne same), isStanding]
        exact faithful.redis other

/-- What the cache in memory answers with is still served. -/
theorem Faithful.get_of_memory (faithful : pair.Faithful cache keyPrefix) (lingers : Bool)
    {now : Nat} {key : String} {value : Json}
    (answered : (MemoryCacheAdapter.get now key pair.memory.entries).1 = some value) :
    RedisCacheAdapter.get lingers now keyPrefix key pair.redis = some value.reparsed := by
  obtain ⟨stored, isStanding, rfl, fresh⟩ := faithful.memory.standing_of_get answered
  have corresponds := faithful.redis key
  rw [isStanding] at corresponds
  cases found : pair.redis (keyPrefix ++ key) with
  | none =>
      rw [found] at corresponds
      exact corresponds.elim
  | some text =>
      rw [found] at corresponds
      obtain ⟨isParsed, freshness⟩ := corresponds
      have before := (freshness now).mp fresh
      have served : text.served lingers now = true := by
        unfold RedisText.served
        cases isDeadline : text.expiresAt with
        | none => rfl
        | some deadline =>
            exact keyServed_of_before (before deadline isDeadline)
      rw [RedisCacheAdapter.get, found, Option.filter_some_pos served, Option.map_some, isParsed]

/-- What is served before its deadline is fresh. -/
theorem Faithful.standing_of_redis (faithful : pair.Faithful cache keyPrefix) {lingers : Bool}
    {now : Nat} {key : String} {document : Json}
    (answered : RedisCacheAdapter.get lingers now keyPrefix key pair.redis = some document) :
    ∃ stored, standing key pair.memory.history = some stored ∧ stored.value.reparsed = document ∧
      (stored.Fresh now ∨ lingers = true ∧ ∃ text, pair.redis (keyPrefix ++ key) = some text ∧
        text.expiresAt = some now) := by
  unfold RedisCacheAdapter.get at answered
  rw [Option.map_eq_some_iff] at answered
  obtain ⟨text, isText, rfl⟩ := answered
  obtain ⟨found, isServed⟩ := Option.filter_eq_some_iff.mp isText
  have corresponds := faithful.redis key
  rw [found] at corresponds
  cases isStanding : standing key pair.memory.history with
  | none =>
      rw [isStanding] at corresponds
      exact corresponds.elim
  | some stored =>
      rw [isStanding] at corresponds
      obtain ⟨isParsed, freshness⟩ := corresponds
      refine ⟨stored, rfl, isParsed.symm, ?_⟩
      unfold RedisText.served at isServed
      cases isDeadline : text.expiresAt with
      | none =>
          left
          rw [freshness, isDeadline]
          intro deadline absent
          cases absent
      | some deadline =>
          rw [isDeadline, keyServed_some] at isServed
          rcases isServed with isBefore | ⟨doesLinger, isNow⟩
          · left
            rw [freshness, isDeadline]
            intro other isOther
            cases isOther
            exact isBefore
          · right
            refine ⟨doesLinger, text, found, ?_⟩
            rw [isDeadline, isNow]

/-- A minute, which the server accepts. -/
private def oneMinute : MemoryCacheAdapter.Ttl :=
  ⟨.finite 60, by decide +kernel⟩

private def setAndGet : List (TimedCall Json) :=
  [⟨0, .set "a" (.num (.infinite false)) (some oneMinute)⟩, ⟨5, .get "a"⟩]

end CachePair

end PlatformArchitecture.Adapters
