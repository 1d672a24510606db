import Mathlib.Tactic.Linarith
import PlatformArchitecture.Foundations.JsNumbers
import PlatformArchitecture.Foundations.Recency
import PlatformArchitecture.Foundations.Run

/-!
# The cache in memory

The entries stand in a map in the order of their last use, and an expired one
keeps its place until it is read.  The cache is compared with the history of
its calls: what was set last and not deleted since, and how many other keys
have been used since a key was.
-/

namespace PlatformArchitecture.PlatformSdk

open PlatformArchitecture.Foundations
open PlatformArchitecture.Foundations.Recency

variable {Value : Type}

/-- A value that is not null, and when it expires. -/
structure CacheEntry (Value : Type) where
  key : String
  value : Value
  expiresAt : Option JsNumber

/-- The limit a cache was constructed with. -/
structure MemoryCacheAdapter where
  maxEntries : Nat
  positive : 1 ≤ maxEntries

namespace MemoryCacheAdapter

theorem one_le_toNat {value : Int} (positive : 1 ≤ value) : 1 ≤ value.toNat := by
  omega

/-- `new MemoryCacheAdapter(maxEntries)`. -/
def construct : JsNumber → Except String MemoryCacheAdapter
  | .finite value =>
      if accepted : value.den = 1 ∧ 1 ≤ value.num then
        .ok ⟨value.num.toNat, one_le_toNat accepted.2⟩
      else
        .error "INVALID_MEMORY_CACHE_LIMIT"
  | .infinite _ => .error "INVALID_MEMORY_CACHE_LIMIT"

/-- The constructor accepts just the positive whole numbers. -/
theorem construct_eq_ok_iff {maxEntries : JsNumber} {cache : MemoryCacheAdapter} :
    construct maxEntries = .ok cache ↔ maxEntries = (cache.maxEntries : JsNumber) := by
  obtain ⟨limit, positive⟩ := cache
  cases maxEntries with
  | infinite negative =>
      constructor
      · intro constructed
        cases constructed
      · intro same
        cases same
  | finite value =>
      by_cases accepted : value.den = 1 ∧ 1 ≤ value.num
      · have whole : ((value.num.toNat : Nat) : ℚ) = value := by
          have cast : ((value.num.toNat : Nat) : Int) = value.num := by omega
          rw [← Int.cast_natCast, cast]
          exact (Rat.den_eq_one_iff value).mp accepted.1
        rw [construct, dif_pos accepted, Except.ok.injEq, MemoryCacheAdapter.mk.injEq]
        constructor
        · intro limitEq
          have values : value = ((limit : Nat) : ℚ) := by
            rw [← limitEq, whole]
          exact congrArg JsNumber.finite values
        · intro same
          have values : value = ((limit : Nat) : ℚ) := JsNumber.finite.inj same
          rw [values, Rat.num_natCast, Int.toNat_natCast]
      · rw [construct, dif_neg accepted]
        constructor
        · intro constructed
          cases constructed
        · intro same
          have values : value = ((limit : Nat) : ℚ) := JsNumber.finite.inj same
          refine absurd ?_ accepted
          rw [values, Rat.num_natCast, Rat.den_natCast]
          exact ⟨rfl, by omega⟩

/-- `ttlSeconds*1000`. -/
def milliseconds : JsNumber → JsNumber
  | .finite seconds => .finite (seconds * 1000)
  | .infinite negative => .infinite negative

/-- `ttlSeconds?Date.now()+ttlSeconds*1000:undefined`. -/
def expiry (now : Nat) (ttlSeconds : Option JsNumber) : Option JsNumber :=
  (ttlSeconds.filter (· ≠ .finite 0)).map fun seconds =>
    JsNumber.after now (milliseconds seconds)

/-- `entry.expiresAt&&entry.expiresAt<=Date.now()`. -/
def expired (now : Nat) (entry : CacheEntry Value) : Bool :=
  entry.expiresAt.any fun expiresAt => expiresAt ≠ .finite 0 && expiresAt ≤ (now : JsNumber)

def get (now : Nat) (key : String) (entries : List (CacheEntry Value)) :
    Option Value × List (CacheEntry Value) :=
  match entries.find? (fun entry => entry.key = key) with
  | none => (none, entries)
  | some entry =>
      if expired now entry then (none, without CacheEntry.key key entries)
      else (some entry.value, usedLast CacheEntry.key entry entries)

def set (cache : MemoryCacheAdapter) (now : Nat) (key : String) (value : Value)
    (ttlSeconds : Option JsNumber) (entries : List (CacheEntry Value)) :
    List (CacheEntry Value) :=
  keepLatest cache.maxEntries
    (usedLast CacheEntry.key ⟨key, value, expiry now ttlSeconds⟩ entries)

def delete (key : String) (entries : List (CacheEntry Value)) : List (CacheEntry Value) :=
  without CacheEntry.key key entries

/-! ## The history of a cache -/

/-- A time to live that is not negative. -/
abbrev Ttl :=
  { seconds : JsNumber // JsNumber.finite 0 ≤ seconds }

inductive Call (Value : Type) where
  | get (key : String)
  | set (key : String) (value : Value) (ttlSeconds : Option Ttl)
  | delete (key : String)

/-- A call, and how long after the one before it comes. -/
structure TimedCall (Value : Type) where
  elapsed : Nat
  call : Call Value

/-- What a `set` stored, and when. -/
structure Stored (Value : Type) where
  value : Value
  setAt : Nat
  ttlSeconds : Option Ttl

/-- The time to live, if there is one and it is not zero, has not elapsed. -/
def Stored.Fresh (now : Nat) (stored : Stored Value) : Prop :=
  ∀ ttl ∈ stored.ttlSeconds, ttl.val ≠ .finite 0 →
    (now : JsNumber) < JsNumber.after stored.setAt (milliseconds ttl.val)

/-- A call that has returned; a `get` is a hit if it found a value. -/
inductive Past (Value : Type) where
  | got (key : String) (hit : Bool)
  | stored (key : String) (stored : Stored Value)
  | deleted (key : String)

/-- What the last `set` of the key stored, unless the key was deleted since.
The last call comes first. -/
def standing (key : String) : List (Past Value) → Option (Stored Value)
  | [] => none
  | .stored other stored :: earlier =>
      if other = key then some stored else standing key earlier
  | .deleted other :: earlier => if other = key then none else standing key earlier
  | .got _ _ :: earlier => standing key earlier

/-- The other keys that were set or successfully read since the key was. -/
def usedSince : List (Past Value) → String → Finset String
  | [], _ => ∅
  | .stored other _ :: earlier, key | .got other true :: earlier, key =>
      if other = key then ∅ else insert other (usedSince earlier key)
  | .got _ false :: earlier, key | .deleted _ :: earlier, key => usedSince earlier key

/-- A cache, the time of its last call and all of its calls. -/
structure World (Value : Type) where
  entries : List (CacheEntry Value)
  clock : Nat
  history : List (Past Value)

/-- A cache that was constructed at a time. -/
def World.fresh (clock : Nat) : World Value :=
  ⟨[], clock, []⟩

def step (cache : MemoryCacheAdapter) (world : World Value) (timed : TimedCall Value) :
    World Value :=
  let now := world.clock + timed.elapsed
  match timed.call with
  | .get key =>
      let got := get now key world.entries
      ⟨got.2, now, .got key got.1.isSome :: world.history⟩
  | .set key value ttlSeconds =>
      ⟨cache.set now key value (ttlSeconds.map Subtype.val) world.entries, now,
        .stored key ⟨value, now, ttlSeconds⟩ :: world.history⟩
  | .delete key => ⟨delete key world.entries, now, .deleted key :: world.history⟩

/-! ## Expiry -/

theorem Stored.Fresh.earlier {stored : Stored Value} {now later : Nat}
    (fresh : stored.Fresh later) (before : now ≤ later) : stored.Fresh now := by
  intro ttl isTtl nonzero
  exact lt_of_le_of_lt (JsNumber.natCast_le_natCast.mpr before) (fresh ttl isTtl nonzero)

/-- The entry that a `set` makes. -/
def Stored.entry (key : String) (stored : Stored Value) : CacheEntry Value :=
  ⟨key, stored.value, expiry stored.setAt (stored.ttlSeconds.map Subtype.val)⟩

/-- A deadline after a positive time is not zero. -/
theorem after_ne_zero {setAt : Nat} (positive : 0 < setAt) (ttl : Ttl) :
    JsNumber.after setAt (milliseconds ttl.val) ≠ .finite 0 := by
  obtain ⟨seconds, nonnegative⟩ := ttl
  cases seconds with
  | finite value =>
      rw [JsNumber.finite_le_finite] at nonnegative
      have setPositive : (0 : ℚ) < setAt := Nat.cast_pos.mpr positive
      intro isZero
      have sum : (setAt : ℚ) + value * 1000 = 0 := JsNumber.finite.inj isZero
      linarith
  | infinite negative =>
      intro isZero
      cases isZero

/-- An entry expires exactly when its time to live has elapsed. -/
theorem expired_entry_iff {stored : Stored Value} (positive : 0 < stored.setAt) (key : String)
    (now : Nat) : expired now (stored.entry key) = false ↔ stored.Fresh now := by
  obtain ⟨value, setAt, ttlSeconds⟩ := stored
  cases ttlSeconds with
  | none => simp [expired, Stored.entry, expiry, Stored.Fresh]
  | some ttl =>
      by_cases zero : ttl.val = .finite 0
      · have never : expiry setAt (some (.finite 0)) = none := rfl
        simp [expired, Stored.entry, Stored.Fresh, never, zero]
      · have nonzero := after_ne_zero positive ttl
        have deadline : expiry setAt (some ttl.val) =
            some (JsNumber.after setAt (milliseconds ttl.val)) := by
          rw [expiry, Option.filter_some_pos (by simpa using zero), Option.map_some]
        simp [expired, Stored.entry, Stored.Fresh, deadline, zero, nonzero]

/-! ## What the entries say of the history -/

/-- The entries hold what the history says, those used longest ago first, and
a standing value is missing only if it has expired or too many other keys have
been used since. -/
structure Mirrors (cache : MemoryCacheAdapter) (world : World Value) : Prop where
  positive : 0 < world.clock
  distinct : (world.entries.map CacheEntry.key).Nodup
  within : world.entries.length ≤ cache.maxEntries
  standing : ∀ entry ∈ world.entries, ∃ stored, standing entry.key world.history = some stored ∧
    0 < stored.setAt ∧ entry = stored.entry entry.key
  inOrder : InOrder CacheEntry.key (usedSince world.history) world.entries
  kept : ∀ key stored, MemoryCacheAdapter.standing key world.history = some stored →
    stored.Fresh world.clock → (usedSince world.history key).card < cache.maxEntries →
      ∃ entry ∈ world.entries, entry.key = key

theorem mirrors_fresh (cache : MemoryCacheAdapter) {clock : Nat} (positive : 0 < clock) :
    Mirrors cache (World.fresh clock : World Value) where
  positive := positive
  distinct := List.nodup_nil
  within := Nat.zero_le _
  standing entry member := absurd member List.not_mem_nil
  inOrder := List.Pairwise.nil
  kept key stored isStanding := by
    cases isStanding

theorem key_ne_of_find {entries : List (CacheEntry Value)} {key : String}
    (missing : entries.find? (fun entry => entry.key = key) = none) :
    ∀ entry ∈ entries, entry.key ≠ key := by
  intro entry member
  have different := List.find?_eq_none.mp missing entry member
  simpa using different

/-- What a `find` finds is the entry of the key. -/
theorem find_spec {entries : List (CacheEntry Value)} {key : String} {entry : CacheEntry Value}
    (found : entries.find? (fun entry => entry.key = key) = some entry) :
    entry ∈ entries ∧ entry.key = key := by
  have isKey := List.find?_some found
  exact ⟨List.mem_of_find?_eq_some found, by simpa using isKey⟩

section Step

variable {cache : MemoryCacheAdapter} {world : World Value}

/-- A `get` answers with the standing value of an entry that has not
expired. -/
theorem Mirrors.get_eq_some_iff (mirrors : Mirrors cache world) {now : Nat} (key : String)
    (value : Value) :
    (get now key world.entries).1 = some value ↔
      ∃ entry ∈ world.entries, entry.key = key ∧ expired now entry = false ∧
        entry.value = value := by
  unfold get
  cases found : world.entries.find? (fun entry => entry.key = key) with
  | none =>
      constructor
      · intro isSome
        cases isSome
      · rintro ⟨entry, member, sameKey, _⟩
        exact absurd sameKey (key_ne_of_find found entry member)
  | some entry =>
      obtain ⟨member, sameKey⟩ := find_spec found
      have only : ∀ other ∈ world.entries, other.key = key → other = entry := by
        intro other isOther otherKey
        exact List.inj_on_of_nodup_map mirrors.distinct isOther member
          (otherKey.trans sameKey.symm)
      dsimp only
      constructor
      · intro isSome
        split at isSome
        · cases isSome
        · next notExpired =>
          exact ⟨entry, member, sameKey, Bool.not_eq_true _ ▸ notExpired,
            Option.some.inj isSome⟩
      · rintro ⟨other, isOther, otherKey, notExpired, rfl⟩
        rw [only other isOther otherKey] at notExpired ⊢
        rw [if_neg (by rw [notExpired]; exact Bool.false_ne_true)]

/-- The value a `get` answers with is the standing one, and still fresh. -/
theorem Mirrors.standing_of_get (mirrors : Mirrors cache world) {now : Nat} {key : String}
    {value : Value} (answered : (get now key world.entries).1 = some value) :
    ∃ stored, MemoryCacheAdapter.standing key world.history = some stored ∧
      stored.value = value ∧ stored.Fresh now := by
  obtain ⟨entry, member, rfl, notExpired, rfl⟩ := (mirrors.get_eq_some_iff key value).mp answered
  obtain ⟨stored, isStanding, positive, same⟩ := mirrors.standing entry member
  rw [same] at notExpired ⊢
  exact ⟨stored, isStanding, rfl, (expired_entry_iff positive _ now).mp notExpired⟩

/-- A standing value that is fresh is answered with while there was room. -/
theorem Mirrors.get_of_standing (mirrors : Mirrors cache world) {now : Nat}
    (later : world.clock ≤ now) {key : String} {stored : Stored Value}
    (isStanding : MemoryCacheAdapter.standing key world.history = some stored)
    (fresh : stored.Fresh now)
    (room : (usedSince world.history key).card < cache.maxEntries) :
    (get now key world.entries).1 = some stored.value := by
  obtain ⟨entry, member, rfl⟩ := mirrors.kept key stored isStanding (fresh.earlier later) room
  obtain ⟨found, alsoStanding, positive, same⟩ := mirrors.standing entry member
  rw [isStanding] at alsoStanding
  obtain rfl := Option.some.inj alsoStanding
  refine (mirrors.get_eq_some_iff entry.key stored.value).mpr ⟨entry, member, rfl, ?_, ?_⟩
  · rw [same]
    exact (expired_entry_iff positive _ now).mpr fresh
  · rw [same]
    rfl

/-- A key is set or successfully read: its entry is the last used, and the key
counts as used since the last use of every other. -/
theorem Mirrors.use (mirrors : Mirrors cache world) {now : Nat} (later : world.clock ≤ now)
    {key : String} {stored : Stored Value} (setPositive : 0 < stored.setAt) {past : Past Value}
    (self : MemoryCacheAdapter.standing key (past :: world.history) = some stored)
    (others : ∀ other, other ≠ key →
      MemoryCacheAdapter.standing other (past :: world.history) =
        MemoryCacheAdapter.standing other world.history)
    (used : ∀ other, usedSince (past :: world.history) other =
      if key = other then ∅ else insert key (usedSince world.history other)) :
    Mirrors cache
      ⟨keepLatest cache.maxEntries
          (usedLast CacheEntry.key (stored.entry key) world.entries),
        now, past :: world.history⟩ := by
  have usedOther : ∀ other, other ≠ key →
      usedSince (past :: world.history) other = insert key (usedSince world.history other) := by
    intro other different
    rw [used, if_neg (Ne.symm different)]
  have distinct : ((usedLast CacheEntry.key (stored.entry key) world.entries).map
      CacheEntry.key).Nodup := nodup_usedLast mirrors.distinct
  have inOrder : InOrder CacheEntry.key (usedSince (past :: world.history))
      (usedLast CacheEntry.key (stored.entry key) world.entries) := by
    refine mirrors.inOrder.usedLast ?_ ?_
    · intro other different
      rw [usedOther other different]
      exact Finset.subset_insert _ _
    · intro other different
      rw [usedOther other different]
      exact Finset.mem_insert_self _ _
  have latest : (keepLatest cache.maxEntries
      (usedLast CacheEntry.key (stored.entry key) world.entries)).Sublist
        (usedLast CacheEntry.key (stored.entry key) world.entries) :=
    keepLatest_sublist _ _
  have keeps : ∀ entry ∈ usedLast CacheEntry.key (stored.entry key) world.entries,
      (usedSince (past :: world.history) entry.key).card < cache.maxEntries →
        entry ∈ keepLatest cache.maxEntries
          (usedLast CacheEntry.key (stored.entry key) world.entries) := by
    intro entry member room
    exact mem_keepLatest_of_card_lt inOrder distinct member room
  constructor
  · exact lt_of_lt_of_le mirrors.positive later
  · exact distinct.sublist (latest.map CacheEntry.key)
  · exact length_keepLatest_le _ _
  · intro entry member
    rcases mem_usedLast.mp (latest.subset member) with ⟨isOld, different⟩ | rfl
    · rw [others entry.key different]
      exact mirrors.standing entry isOld
    · exact ⟨stored, self, setPositive, rfl⟩
  · exact inOrder.sublist latest
  · intro other otherStored isStanding fresh room
    by_cases same : other = key
    · refine ⟨stored.entry key, keeps _ (mem_usedLast.mpr (.inr rfl)) ?_, same.symm⟩
      rw [← same]
      exact same ▸ room
    · rw [others other same] at isStanding
      have fewer : (usedSince world.history other).card < cache.maxEntries := by
        refine lt_of_le_of_lt (Finset.card_le_card ?_) room
        rw [usedOther other same]
        exact Finset.subset_insert _ _
      obtain ⟨entry, member, rfl⟩ :=
        mirrors.kept other otherStored isStanding (fresh.earlier later) fewer
      exact ⟨entry, keeps _ (mem_usedLast.mpr (.inl ⟨member, same⟩)) room, rfl⟩

/-- A key is deleted, or found to be missing or expired: nothing else
changes. -/
theorem Mirrors.forget (mirrors : Mirrors cache world) {now : Nat} (later : world.clock ≤ now)
    {key : String} {past : Past Value}
    (others : ∀ other, other ≠ key →
      MemoryCacheAdapter.standing other (past :: world.history) =
        MemoryCacheAdapter.standing other world.history)
    (used : usedSince (past :: world.history) = usedSince world.history)
    (gone : ∀ stored, MemoryCacheAdapter.standing key (past :: world.history) = some stored →
      stored.Fresh now → cache.maxEntries ≤ (usedSince world.history key).card) :
    Mirrors cache
      ⟨without CacheEntry.key key world.entries, now, past :: world.history⟩ := by
  have remaining : (without CacheEntry.key key world.entries).Sublist world.entries :=
    List.filter_sublist
  constructor
  · exact lt_of_lt_of_le mirrors.positive later
  · exact nodup_without mirrors.distinct
  · exact remaining.length_le.trans mirrors.within
  · intro entry member
    obtain ⟨isOld, different⟩ := mem_without.mp member
    rw [others entry.key different]
    exact mirrors.standing entry isOld
  · rw [used]
    exact mirrors.inOrder.sublist remaining
  · intro other stored isStanding fresh room
    rw [used] at room
    by_cases same : other = key
    · have full := gone stored (same ▸ isStanding) fresh
      rw [same] at room
      omega
    · rw [others other same] at isStanding
      obtain ⟨entry, member, rfl⟩ :=
        mirrors.kept other stored isStanding (fresh.earlier later) room
      exact ⟨entry, mem_without.mpr ⟨member, same⟩, rfl⟩

/-- A `get` finds no entry. -/
theorem Mirrors.getMissing (mirrors : Mirrors cache world) {now : Nat}
    (later : world.clock ≤ now) {key : String}
    (missing : ∀ entry ∈ world.entries, entry.key ≠ key) :
    Mirrors cache ⟨world.entries, now, .got key false :: world.history⟩ := by
  have forgotten : Mirrors cache
      ⟨without CacheEntry.key key world.entries, now, .got key false :: world.history⟩ := by
    refine mirrors.forget later (fun _other _different => rfl) rfl ?_
    intro stored isStanding fresh
    by_contra room
    obtain ⟨entry, member, sameKey⟩ :=
      mirrors.kept key stored isStanding (fresh.earlier later) (by omega)
    exact missing entry member sameKey
  rw [without_eq_self missing] at forgotten
  exact forgotten

/-- A `get` finds an entry that has expired, and deletes it. -/
theorem Mirrors.getExpired (mirrors : Mirrors cache world) {now : Nat}
    (later : world.clock ≤ now) {entry : CacheEntry Value} (member : entry ∈ world.entries)
    (isExpired : expired now entry = true) :
    Mirrors cache
      ⟨without CacheEntry.key entry.key world.entries, now,
        .got entry.key false :: world.history⟩ := by
  obtain ⟨stored, isStanding, setPositive, same⟩ := mirrors.standing entry member
  have fresh := expired_entry_iff setPositive entry.key now
  rw [← same] at fresh
  refine mirrors.forget later (fun _other _different => rfl) rfl ?_
  intro other alsoStanding stillFresh
  have sameStored : some stored = some other := isStanding.symm.trans alsoStanding
  rw [← Option.some.inj sameStored, ← fresh, isExpired] at stillFresh
  cases stillFresh

/-- A `get` finds an entry and makes it the last used. -/
theorem Mirrors.getFound (mirrors : Mirrors cache world) {now : Nat}
    (later : world.clock ≤ now) {entry : CacheEntry Value} (member : entry ∈ world.entries) :
    Mirrors cache
      ⟨usedLast CacheEntry.key entry world.entries, now,
        .got entry.key true :: world.history⟩ := by
  obtain ⟨stored, isStanding, setPositive, same⟩ := mirrors.standing entry member
  have fits : (usedLast CacheEntry.key entry world.entries).length ≤ cache.maxEntries :=
    (length_usedLast_le member rfl).trans mirrors.within
  have used : Mirrors cache
      ⟨keepLatest cache.maxEntries
          (usedLast CacheEntry.key (stored.entry entry.key) world.entries),
        now, .got entry.key true :: world.history⟩ :=
    mirrors.use later setPositive isStanding (fun _other _different => rfl) (fun _other => rfl)
  rw [← same, keepLatest_eq_self fits] at used
  exact used

theorem Mirrors.get (mirrors : Mirrors cache world) {now : Nat} (later : world.clock ≤ now)
    (key : String) :
    Mirrors cache
      ⟨(MemoryCacheAdapter.get now key world.entries).2, now,
        .got key (MemoryCacheAdapter.get now key world.entries).1.isSome :: world.history⟩ := by
  cases found : world.entries.find? (fun entry => entry.key = key) with
  | none =>
      have got : MemoryCacheAdapter.get now key world.entries = (none, world.entries) := by
        simp [MemoryCacheAdapter.get, found]
      rw [got]
      exact mirrors.getMissing later (key_ne_of_find found)
  | some entry =>
      obtain ⟨member, rfl⟩ := find_spec found
      cases isExpired : expired now entry with
      | true =>
          have got : MemoryCacheAdapter.get now entry.key world.entries =
              (none, without CacheEntry.key entry.key world.entries) := by
            simp [MemoryCacheAdapter.get, found, isExpired]
          rw [got]
          exact mirrors.getExpired later member isExpired
      | false =>
          have got : MemoryCacheAdapter.get now entry.key world.entries =
              (some entry.value, usedLast CacheEntry.key entry world.entries) := by
            simp [MemoryCacheAdapter.get, found, isExpired]
          rw [got]
          exact mirrors.getFound later member

/-- Every call keeps the entries true to the history. -/
theorem Mirrors.step (mirrors : Mirrors cache world) (timed : TimedCall Value) :
    Mirrors cache (step cache world timed) := by
  obtain ⟨elapsed, call⟩ := timed
  have later : world.clock ≤ world.clock + elapsed := Nat.le_add_right _ _
  have positive : 0 < world.clock + elapsed := lt_of_lt_of_le mirrors.positive later
  cases call with
  | get key => exact mirrors.get later key
  | set key value ttlSeconds =>
      refine @Mirrors.use _ _ _ mirrors _ later key ⟨value, world.clock + elapsed, ttlSeconds⟩
        positive (.stored key ⟨value, world.clock + elapsed, ttlSeconds⟩) ?_ ?_
        (fun _other => rfl)
      · simp [MemoryCacheAdapter.standing]
      · intro other different
        simp [MemoryCacheAdapter.standing, Ne.symm different]
  | delete key =>
      refine @Mirrors.forget _ _ _ mirrors _ later key (.deleted key) ?_ rfl ?_
      · intro other different
        simp [MemoryCacheAdapter.standing, Ne.symm different]
      · intro stored isStanding
        simp [MemoryCacheAdapter.standing] at isStanding

end Step

/-- After any calls, a `get` answers with nothing but the value that was set
last, not deleted since and not expired; it answers with that value while fewer
other keys than there is room for have been used since; and there are never
more entries than that. -/
theorem boundedLeastRecentlyUsed (cache : MemoryCacheAdapter) {clock : Nat} (positive : 0 < clock)
    (calls : List (TimedCall Value)) (key : String) (elapsed : Nat) :
    let world := run (step cache) (World.fresh clock) calls
    let now := world.clock + elapsed
    (∀ value, (get now key world.entries).1 = some value →
      ∃ stored, standing key world.history = some stored ∧ stored.value = value ∧
        stored.Fresh now) ∧
    (∀ stored, standing key world.history = some stored → stored.Fresh now →
      (usedSince world.history key).card < cache.maxEntries →
        (get now key world.entries).1 = some stored.value) ∧
    world.entries.length ≤ cache.maxEntries := by
  intro world now
  have mirrors : Mirrors cache world :=
    @run_invariant_of_step _ _ (step cache) (Mirrors cache)
      (fun _world timed kept => kept.step timed) _ calls (mirrors_fresh cache positive)
  refine ⟨?_, ?_, mirrors.within⟩
  · intro value answered
    exact mirrors.standing_of_get answered
  · intro stored isStanding fresh room
    exact mirrors.get_of_standing (Nat.le_add_right _ _) isStanding fresh room

/-- A cache of two entries, after the calls of the service's own test. -/
def cacheOfTwo : MemoryCacheAdapter :=
  ⟨2, by decide⟩

def fourCalls : List (TimedCall Nat) :=
  [⟨0, .set "a" 1 none⟩, ⟨0, .set "b" 2 none⟩, ⟨0, .get "a"⟩, ⟨0, .set "c" 3 none⟩]

example :
    let world := run (step cacheOfTwo) (World.fresh 1000) fourCalls
    (get 1000 "b" world.entries).1 = none ∧ (get 1000 "a" world.entries).1 = some 1 ∧
      world.entries.length = 2 := by
  decide

theorem boundedLeastRecentlyUsed_fourCalls :
    let world := run (step cacheOfTwo) (World.fresh 1000) fourCalls
    let now := world.clock + 5
    (∀ value, (get now "a" world.entries).1 = some value →
      ∃ stored, standing "a" world.history = some stored ∧ stored.value = value ∧
        stored.Fresh now) ∧
    (∀ stored, standing "a" world.history = some stored → stored.Fresh now →
      (usedSince world.history "a").card < cacheOfTwo.maxEntries →
        (get now "a" world.entries).1 = some stored.value) ∧
    world.entries.length ≤ cacheOfTwo.maxEntries :=
  boundedLeastRecentlyUsed cacheOfTwo (by decide) fourCalls "a" 5

end MemoryCacheAdapter

end PlatformArchitecture.PlatformSdk
