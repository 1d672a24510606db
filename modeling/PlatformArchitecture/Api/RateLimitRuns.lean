import PlatformArchitecture.Api.RateLimitAgreement

/-!
# Runs of the two rate limiters

The same calls go to both limiters under one clock.  The counter on Redis
follows the window in memory, and the calls that were admitted to a window are
as many as it has counted.
-/

namespace PlatformArchitecture.Api

open PlatformArchitecture.Foundations
open MemoryFixedWindowLimiter (liveWindow TracksWithin)
open RedisFixedWindowLimiter (liveCounter countInWindow served redisKey)

/-- A call of `consume` and the time that has passed since the one before. -/
structure Arrival where
  key : String
  elapsed : Nat

/-- A call that both limiters have answered. -/
structure Call where
  key : String
  moment : Nat
  memory : RateLimitResult
  redis : RateLimitResult

structure RateLimitWorld where
  clock : Nat
  memory : MemoryFixedWindowLimiter.State
  redis : RedisFixedWindowLimiter.Store
  calls : List Call

namespace RateLimitWorld

def initial : RateLimitWorld :=
  ⟨0, MemoryFixedWindowLimiter.initial, fun _ => none, []⟩

variable (limits : RateLimits) (lingers : Bool) (keyPrefix : String)

def step (world : RateLimitWorld) (arrival : Arrival) : RateLimitWorld :=
  let now := world.clock + arrival.elapsed
  let memory := MemoryFixedWindowLimiter.consume limits world.memory arrival.key now
  let redis :=
    RedisFixedWindowLimiter.consume limits lingers keyPrefix world.redis arrival.key now
  ⟨now, memory.2, redis.2, ⟨arrival.key, now, memory.1, redis.1⟩ :: world.calls⟩

end RateLimitWorld

/-! ## What is asked of the limiters -/

/-- The calls of a key that a limiter admitted in the window that ends at
`resetAt`. -/
def admitted (limits : RateLimits) (answer : Call → RateLimitResult) (key : String)
    (resetAt : Nat) (calls : List Call) : Nat :=
  calls.countP fun call =>
    decide (call.key = key ∧ (answer call).allowed = true ∧
      resetAt ≤ call.moment + limits.windowMs ∧ call.moment < resetAt)

/-- In the window of any call no more calls were admitted than may be. -/
def WithinQuota (limits : RateLimits) (answer : Call → RateLimitResult)
    (calls : List Call) : Prop :=
  ∀ call ∈ calls,
    (admitted limits answer call.key (answer call).resetAt calls : ℚ) ≤ limits.max

/-- Both limiters answered alike, and neither admitted more than it may. -/
structure LimitersAgree (limits : RateLimits) (calls : List Call) : Prop where
  sameAllowed : ∀ call ∈ calls, call.memory.allowed = call.redis.allowed
  sameRemaining : ∀ call ∈ calls, call.memory.remaining = call.redis.remaining
  memoryQuota : WithinQuota limits Call.memory calls
  redisQuota : WithinQuota limits Call.redis calls

/-- The number of calls counted in the window in force, if there is one. -/
def countedIn (window : Option Window) : Nat :=
  (window.map Window.count).getD 0

/-- The limit does not lie strictly between a count and the next one. -/
def Decides (limits : RateLimits) (count : Nat) : Prop :=
  ¬((count : ℚ) < limits.max ∧ limits.max < (count + 1 : Nat))

/-- The counter on Redis is not in the millisecond of its deadline, if it is
still served there. -/
def ApartFromDeadline (lingers : Bool) (now : Nat) (stored : Option RedisCounter) : Prop :=
  lingers = true → ∀ counter, stored = some counter → counter.expiresAt ≠ some now

/-- A call that both limiters answer alike. -/
def AnsweredAlike (limits : RateLimits) (lingers : Bool) (keyPrefix : String)
    (world : RateLimitWorld) (arrival : Arrival) : Prop :=
  let now := world.clock + arrival.elapsed
  Decides limits (countedIn (liveWindow world.memory.windows now arrival.key)) ∧
    ApartFromDeadline lingers now (world.redis (redisKey keyPrefix arrival.key))

/-- A whole limit lies at a count, never between two. -/
theorem decides_of_whole {limits : RateLimits} {whole : Nat} (isWhole : limits.max = whole)
    (count : Nat) : Decides limits count := by
  rintro ⟨above, below⟩
  rw [isWhole] at above below
  have first : count < whole := Nat.cast_lt.mp above
  have second : whole < count + 1 := Nat.cast_lt.mp below
  omega

/-! ## The counter follows the window -/

variable {limits : RateLimits} {now : Nat}

/-- The counter has the deadline of the window, and its count up to the limit. -/
def Follows (limits : RateLimits) : Option Window → Option RedisCounter → Prop
  | none, none => True
  | some window, some counter =>
      counter.expiresAt = some window.resetAt ∧ (window.count : ℚ) ≤ limits.max ∧
        (counter.count = window.count ∨
          limits.max = window.count ∧ window.count ≤ counter.count)
  | _, _ => False

theorem Follows.eq_none {window : Option Window} (follows : Follows limits window none) :
    window = none := by
  cases window with
  | none => rfl
  | some window => exact follows.elim

/-- A window and a counter end together. -/
theorem Follows.later {window : Option Window} {counter : Option RedisCounter}
    (follows : Follows limits window counter) (moment : Nat) :
    Follows limits (window.filter (MemoryFixedWindowLimiter.unexpired moment))
      (counter.filter (served false moment)) := by
  cases window with
  | none =>
      cases counter with
      | none => trivial
      | some counter => exact follows.elim
  | some window =>
      cases counter with
      | none => exact follows.elim
      | some counter =>
          have sameEnd : served false moment counter =
              MemoryFixedWindowLimiter.unexpired moment window := by
            unfold served keyServed MemoryFixedWindowLimiter.unexpired
            rw [follows.1, ← decide_not]
            simp
          rw [Option.filter_some, Option.filter_some, sameEnd]
          split
          · exact follows
          · trivial

theorem Follows.within {window : Window} {counter : Option RedisCounter}
    (follows : Follows limits (some window) counter) : (window.count : ℚ) ≤ limits.max := by
  cases counter with
  | none => exact follows.elim
  | some counter => exact follows.2.1

/-- Where the limit decides, the limiters give one answer, and the counter
follows on. -/
theorem Follows.answers {key : String} {window : Option Window}
    {counter : Option RedisCounter} (follows : Follows limits window counter)
    (decides : Decides limits (countedIn window)) :
    (admitInWindow limits key now window).1 = (countInWindow limits now counter).1 ∧
      Follows limits (some (admitInWindow limits key now window).2)
        (some (countInWindow limits now counter).2) := by
  cases window with
  | none =>
      cases counter with
      | some counter => exact follows.elim
      | none =>
          have reaches : ((1 : Nat) : ℚ) ≤ limits.max := by
            by_contra below
            exact decides ⟨by exact_mod_cast limits.max_pos, not_le.mp below⟩
          have rest : (0 : ℚ) ≤ limits.max - (1 : Nat) := sub_nonneg.mpr reaches
          refine ⟨?_, rfl, reaches, Or.inl rfl⟩
          simp only [admitInWindow, countInWindow, decide_eq_true reaches, max_eq_right rest]
          rw [Nat.cast_one]
  | some window =>
      cases counter with
      | none => exact follows.elim
      | some counter =>
          obtain ⟨sameEnd, within, counts⟩ := follows
          by_cases full : limits.max ≤ window.count
          · have isMax : limits.max = window.count := le_antisymm full within
            have least : window.count ≤ counter.count := by
              rcases counts with same | ⟨_, least⟩
              · exact same.ge
              · exact least
            have beyond : limits.max < (counter.count + 1 : Nat) := by
              rw [isMax]
              exact_mod_cast Nat.lt_succ_of_le least
            have noRest : limits.max - (counter.count + 1 : Nat) ≤ 0 := sub_nonpos.mpr beyond.le
            simp only [admitInWindow, if_pos full, countInWindow, sameEnd, Option.getD_some,
              decide_eq_false (not_le.mpr beyond), max_eq_left noRest]
            refine ⟨trivial, rfl, within, Or.inr ⟨isMax, ?_⟩⟩
            exact least.trans (Nat.le_succ _)
          · have same : counter.count = window.count := by
              rcases counts with same | ⟨isMax, _⟩
              · exact same
              · exact absurd isMax.le full
            have reaches : ((window.count + 1 : Nat) : ℚ) ≤ limits.max := by
              by_contra below
              exact decides ⟨not_le.mp full, not_le.mp below⟩
            simp only [admitInWindow, if_neg full, countInWindow, sameEnd, same,
              Option.getD_some, decide_eq_true reaches]
            exact ⟨trivial, rfl, reaches, Or.inl rfl⟩

/-- Limiters that answer alike find a limit that decides. -/
theorem Follows.decides {key : String} {window : Option Window}
    {counter : Option RedisCounter} (follows : Follows limits window counter)
    (alike : (admitInWindow limits key now window).1.allowed =
      (countInWindow limits now counter).1.allowed) :
    Decides limits (countedIn window) := by
  rintro ⟨above, below⟩
  cases window with
  | none =>
      cases counter with
      | some counter => exact follows.elim
      | none =>
          have refused : true = decide (((1 : Nat) : ℚ) ≤ limits.max) := alike
          exact absurd (of_decide_eq_true refused.symm) (not_le.mpr below)
  | some window =>
      cases counter with
      | none => exact follows.elim
      | some counter =>
          have notFull : ¬ limits.max ≤ window.count := not_le.mpr above
          have same : counter.count = window.count := by
            rcases follows.2.2 with same | ⟨isMax, _⟩
            · exact same
            · exact absurd isMax.le notFull
          simp only [admitInWindow, if_neg notFull, countInWindow, same] at alike
          exact absurd (of_decide_eq_true alike.symm) (not_le.mpr below)

/-- A counter that lingers is counted on while the limiter in memory opens a
window, and the answers differ. -/
theorem lingering_differs {key : String} {counter : RedisCounter} (counted : 0 < counter.count)
    (sameAllowed : (admitInWindow limits key now none).1.allowed =
      (countInWindow limits now (some counter)).1.allowed) :
    (admitInWindow limits key now none).1.remaining ≠
      (countInWindow limits now (some counter)).1.remaining := by
  have reaches : ((counter.count + 1 : Nat) : ℚ) ≤ limits.max :=
    of_decide_eq_true sameAllowed.symm
  have fewer : (1 : ℚ) < (counter.count + 1 : Nat) := by
    exact_mod_cast Nat.succ_lt_succ counted
  intro sameRemaining
  have same : limits.max - 1 = max 0 (limits.max - (counter.count + 1 : Nat)) := sameRemaining
  rw [max_eq_right (sub_nonneg.mpr reaches)] at same
  exact absurd (sub_right_inj.mp same) fewer.ne

/-! ## The calls of a window -/

/-- What a call does to the window in force: its end, and its count if the call
is admitted. -/
theorem admitInWindow_spec (limits : RateLimits) (key : String) (now : Nat)
    (window : Option Window) :
    let answered := admitInWindow limits key now window
    answered.1.resetAt = answered.2.resetAt ∧
      answered.2.resetAt = (window.map Window.resetAt).getD (now + limits.windowMs) ∧
      answered.2.count =
        countedIn window + if answered.1.allowed = true then 1 else 0 := by
  cases window with
  | none => exact ⟨rfl, rfl, rfl⟩
  | some window =>
      unfold admitInWindow countedIn
      by_cases full : limits.max ≤ window.count
      · simp [if_pos full]
      · simp [if_neg full]

theorem admitted_cons (answer : Call → RateLimitResult) (key : String) (resetAt : Nat)
    (call : Call) (calls : List Call) :
    admitted limits answer key resetAt (call :: calls) =
      admitted limits answer key resetAt calls +
        if call.key = key ∧ (answer call).allowed = true ∧
          resetAt ≤ call.moment + limits.windowMs ∧ call.moment < resetAt then 1 else 0 := by
  unfold admitted
  rw [List.countP_cons]
  simp only [decide_eq_true_eq]

/-- The windows in force account for the calls that were answered. -/
structure Accounts (limits : RateLimits) (windows : Windows) (clock : Nat)
    (calls : List Call) : Prop where
  past : ∀ call ∈ calls, call.moment ≤ clock ∧ call.moment < call.memory.resetAt
  inForce : ∀ call ∈ calls, clock < call.memory.resetAt →
    ∃ window, liveWindow windows clock call.key = some window ∧
      window.resetAt = call.memory.resetAt
  ahead : ∀ key window, liveWindow windows clock key = some window →
    window.resetAt ≤ clock + limits.windowMs ∧
      admitted limits Call.memory key window.resetAt calls = window.count
  quota : WithinQuota limits Call.memory calls

namespace Accounts

variable {windows : Windows} {calls : List Call}

theorem later {clock : Nat} (accounts : Accounts limits windows clock calls)
    (passed : clock ≤ now) : Accounts limits windows now calls where
  past := by
    intro call member
    obtain ⟨isPast, before⟩ := accounts.past call member
    exact ⟨isPast.trans passed, before⟩
  inForce := by
    intro call member ahead
    obtain ⟨window, isLive, sameEnd⟩ :=
      accounts.inForce call member (lt_of_le_of_lt passed ahead)
    refine ⟨window, ?_, sameEnd⟩
    exact MemoryFixedWindowLimiter.liveWindow_eq_some.mpr
      ⟨(MemoryFixedWindowLimiter.liveWindow_eq_some.mp isLive).1, sameEnd ▸ ahead⟩
  ahead := by
    intro key window isLive
    obtain ⟨found, notEnded⟩ := MemoryFixedWindowLimiter.liveWindow_eq_some.mp isLive
    have wasLive := MemoryFixedWindowLimiter.liveWindow_eq_some.mpr
      ⟨found, lt_of_le_of_lt passed notEnded⟩
    obtain ⟨bound, counts⟩ := accounts.ahead key window wasLive
    exact ⟨bound.trans (Nat.add_le_add_right passed _), counts⟩
  quota := accounts.quota

/-- Before a call, the window it falls into has counted the calls admitted to
it. -/
theorem admitted_eq_countedIn (accounts : Accounts limits windows now calls) (key : String) :
    admitted limits Call.memory key
        (((liveWindow windows now key).map Window.resetAt).getD (now + limits.windowMs)) calls =
      countedIn (liveWindow windows now key) := by
  cases isLive : liveWindow windows now key with
  | some window => exact (accounts.ahead key window isLive).2
  | none =>
      apply List.countP_eq_zero.mpr
      intro call member counted
      obtain ⟨isKey, _, notBefore, _⟩ := of_decide_eq_true counted
      obtain ⟨_, before⟩ := accounts.past call member
      have notEnded : now < call.memory.resetAt := by
        have started : now + limits.windowMs ≤ call.moment + limits.windowMs := notBefore
        omega
      obtain ⟨window, found, _⟩ := accounts.inForce call member notEnded
      rw [isKey, isLive] at found
      cases found

/-- The window a call falls into is in force. -/
theorem end_bounds (accounts : Accounts limits windows now calls) (key : String) :
    now < (admitInWindow limits key now (liveWindow windows now key)).2.resetAt ∧
      (admitInWindow limits key now (liveWindow windows now key)).2.resetAt ≤
        now + limits.windowMs := by
  have isEnd := (admitInWindow_spec limits key now (liveWindow windows now key)).2.1
  rw [isEnd]
  cases isLive : liveWindow windows now key with
  | none => exact ⟨Nat.lt_add_of_pos_right limits.windowMs_pos, le_refl _⟩
  | some window =>
      exact ⟨(MemoryFixedWindowLimiter.liveWindow_eq_some.mp isLive).2,
        (accounts.ahead key window isLive).1⟩

/-- After a call, the window it fell into has counted the calls admitted to
it. -/
theorem admitted_call (accounts : Accounts limits windows now calls) (key : String)
    (redis : RateLimitResult) :
    admitted limits Call.memory key
        (admitInWindow limits key now (liveWindow windows now key)).2.resetAt
        (⟨key, now, (admitInWindow limits key now (liveWindow windows now key)).1, redis⟩ ::
          calls) =
      (admitInWindow limits key now (liveWindow windows now key)).2.count := by
  obtain ⟨_, isEnd, counts⟩ := admitInWindow_spec limits key now (liveWindow windows now key)
  have before := accounts.admitted_eq_countedIn key
  have bounds := accounts.end_bounds key
  rw [← isEnd] at before
  rw [admitted_cons, before, counts]
  simp only [true_and, bounds.1, bounds.2, and_true]

theorem call (accounts : Accounts limits windows now calls) {answered : Windows}
    {key : String} {redis : RateLimitResult}
    (changed : ∀ other, liveWindow answered now other =
      if other = key then
        some (admitInWindow limits key now (liveWindow windows now key)).2
      else liveWindow windows now other)
    (within : ((admitInWindow limits key now (liveWindow windows now key)).2.count : ℚ) ≤
      limits.max) :
    Accounts limits answered now
      (⟨key, now, (admitInWindow limits key now (liveWindow windows now key)).1, redis⟩ ::
        calls) := by
  obtain ⟨sameEnd, isEnd, _⟩ := admitInWindow_spec limits key now (liveWindow windows now key)
  have bounds := accounts.end_bounds key
  have total := accounts.admitted_call key redis
  -- an earlier call of the key is in the window of this one, or its own has ended
  have earlier : ∀ call ∈ calls, call.key = key → now < call.memory.resetAt →
      (admitInWindow limits key now (liveWindow windows now key)).2.resetAt =
        call.memory.resetAt := by
    intro call member isKey notEnded
    obtain ⟨window, isLive, same⟩ := accounts.inForce call member notEnded
    rw [isKey] at isLive
    rw [isEnd, isLive]
    exact same
  constructor
  case past =>
    intro call member
    rcases List.mem_cons.mp member with rfl | member
    · exact ⟨le_refl _, sameEnd ▸ bounds.1⟩
    · exact accounts.past call member
  case inForce =>
    intro call member notEnded
    rcases List.mem_cons.mp member with rfl | member
    · exact ⟨_, (changed key).trans (if_pos rfl), sameEnd.symm⟩
    · by_cases isKey : call.key = key
      · exact ⟨_, (changed call.key).trans (if_pos isKey),
          earlier call member isKey notEnded⟩
      · obtain ⟨window, isLive, same⟩ := accounts.inForce call member notEnded
        exact ⟨window, ((changed call.key).trans (if_neg isKey)).trans isLive, same⟩
  case ahead =>
    intro other window isLive
    rw [changed other] at isLive
    by_cases same : other = key
    · rw [if_pos same] at isLive
      cases isLive
      rw [same]
      exact ⟨bounds.2, total⟩
    · rw [if_neg same] at isLive
      obtain ⟨bound, counts⟩ := accounts.ahead other window isLive
      refine ⟨bound, ?_⟩
      rw [admitted_cons, if_neg fun counted => same counted.1.symm]
      exact counts
  case quota =>
    intro call member
    rcases List.mem_cons.mp member with rfl | member
    · rw [sameEnd, total]
      exact within
    · by_cases inWindow : call.key = key ∧ now < call.memory.resetAt
      · rw [inWindow.1, ← earlier call member inWindow.1 inWindow.2, total]
        exact within
      · rw [admitted_cons, if_neg fun counted => inWindow ⟨counted.1.symm, counted.2.2.2⟩]
        exact accounts.quota call member

end Accounts

/-! ## Both limiters over a run -/

namespace RateLimitWorld

variable {lingers : Bool} {keyPrefix : String}

theorem redisKey_inj {keyPrefix key other : String} :
    redisKey keyPrefix key = redisKey keyPrefix other ↔ key = other := by
  constructor
  · intro same
    exact String.append_right_inj _ |>.mp same
  · intro same
    rw [same]

/-- What a step does with the window and the counter that are in force. -/
theorem step_spec {world : RateLimitWorld} {arrival : Arrival}
    (sound : RedisFixedWindowLimiter.Sound world.redis)
    (tracks : TracksWithin limits world.memory) (lingers : Bool) (keyPrefix : String)
    (isNow : now = world.clock + arrival.elapsed) :
    let next := step limits lingers keyPrefix world arrival
    let window := liveWindow world.memory.windows now arrival.key
    let counter :=
      (world.redis (redisKey keyPrefix arrival.key)).filter (served lingers now)
    next.clock = now ∧
      (∀ other, liveWindow next.memory.windows now other =
        if other = arrival.key then some (admitInWindow limits arrival.key now window).2
        else liveWindow world.memory.windows now other) ∧
      next.redis = Function.update world.redis (redisKey keyPrefix arrival.key)
        (some (countInWindow limits now counter).2) ∧
      next.calls = ⟨arrival.key, now, (admitInWindow limits arrival.key now window).1,
        (countInWindow limits now counter).1⟩ :: world.calls := by
  obtain ⟨answer, windows⟩ := MemoryFixedWindowLimiter.consume_spec tracks arrival.key now
  have counts := @RedisFixedWindowLimiter.consume_spec limits _ sound lingers keyPrefix
    arrival.key now
  unfold step
  rw [← isNow]
  dsimp only
  rw [counts, answer]
  exact ⟨rfl, windows, rfl, rfl⟩

/-- The counters on Redis follow the windows in memory, which account for the
calls, and all calls were answered alike. -/
structure InStep (limits : RateLimits) (keyPrefix : String) (world : RateLimitWorld) :
    Prop where
  follows : ∀ key, Follows limits (liveWindow world.memory.windows world.clock key)
    (liveCounter world.redis world.clock (redisKey keyPrefix key))
  sound : RedisFixedWindowLimiter.Sound world.redis
  accounts : Accounts limits world.memory.windows world.clock world.calls
  alike : ∀ call ∈ world.calls, call.memory = call.redis

theorem inStep_initial (limits : RateLimits) (keyPrefix : String) :
    InStep limits keyPrefix initial where
  follows := fun _ => trivial
  sound := by
    intro redisKey counter stored
    cases stored
  accounts := by
    constructor
    case ahead =>
      intro key window isLive
      cases (MemoryFixedWindowLimiter.liveWindow_eq_some.mp isLive).1
    all_goals
      intro call member
      cases member
  alike := by
    intro call member
    cases member

namespace InStep

variable {world : RateLimitWorld}

theorem agrees (inStep : InStep limits keyPrefix world) : LimitersAgree limits world.calls where
  sameAllowed := fun call member => congrArg _ (inStep.alike call member)
  sameRemaining := fun call member => congrArg _ (inStep.alike call member)
  memoryQuota := inStep.accounts.quota
  redisQuota := by
    intro call member
    have sameCount : admitted limits Call.redis call.key call.redis.resetAt world.calls =
        admitted limits Call.memory call.key call.redis.resetAt world.calls := by
      apply List.countP_congr
      intro other otherMember
      rw [inStep.alike other otherMember]
    rw [sameCount, ← inStep.alike call member]
    exact inStep.accounts.quota call member

/-- When time passes, the counters still follow the windows. -/
theorem follows_later (inStep : InStep limits keyPrefix world) (passed : world.clock ≤ now)
    (key : String) :
    Follows limits (liveWindow world.memory.windows now key)
      (liveCounter world.redis now (redisKey keyPrefix key)) := by
  have later := (inStep.follows key).later now
  rw [MemoryFixedWindowLimiter.liveWindow_later _ passed,
    RedisFixedWindowLimiter.liveCounter_later _ passed] at later
  exact later

theorem step {arrival : Arrival} (inStep : InStep limits keyPrefix world)
    (tracks : TracksWithin limits world.memory)
    (alike : AnsweredAlike limits lingers keyPrefix world arrival) :
    InStep limits keyPrefix (step limits lingers keyPrefix world arrival) := by
  obtain ⟨now, isNow⟩ : ∃ now, now = world.clock + arrival.elapsed := ⟨_, rfl⟩
  obtain ⟨decides, apart⟩ := alike
  rw [← isNow] at decides apart
  have passed : world.clock ≤ now := isNow ▸ Nat.le_add_right _ _
  have accounts := inStep.accounts.later passed
  obtain ⟨isClock, windows, redis, calls⟩ :=
    step_spec inStep.sound tracks lingers keyPrefix isNow
  rw [RedisFixedWindowLimiter.filter_served apart] at redis calls
  obtain ⟨sameAnswer, follows⟩ := @Follows.answers limits now arrival.key _ _
    (inStep.follows_later passed arrival.key) decides
  constructor
  case follows =>
    intro other
    have isLive : served false now (countInWindow limits now
        (liveCounter world.redis now (redisKey keyPrefix arrival.key))).2 = true := by
      unfold served
      rw [follows.1]
      exact keyServed_of_before (accounts.end_bounds arrival.key).1
    rw [isClock, windows, redis]
    refine (congrArg (Follows limits _)
      (RedisFixedWindowLimiter.liveCounter_update isLive _)).mpr ?_
    by_cases same : other = arrival.key
    · rw [if_pos same, if_pos (redisKey_inj.mpr same)]
      exact follows
    · rw [if_neg same, if_neg fun sameKey => same (redisKey_inj.mp sameKey)]
      exact inStep.follows_later passed other
  case sound =>
    rw [redis]
    apply inStep.sound.update
    intro current isCurrent
    exact (Option.filter_eq_some_iff.mp isCurrent).1
  case accounts =>
    rw [isClock, calls]
    exact accounts.call windows follows.within
  case alike =>
    intro call member
    rw [calls] at member
    rcases List.mem_cons.mp member with rfl | member
    · exact sameAnswer
    · exact inStep.alike call member

/-- Only a call that meets the condition is answered alike. -/
theorem answeredAlike {arrival : Arrival} (inStep : InStep limits keyPrefix world)
    (tracks : TracksWithin limits world.memory)
    (agree : LimitersAgree limits
      (RateLimitWorld.step limits lingers keyPrefix world arrival).calls) :
    AnsweredAlike limits lingers keyPrefix world arrival := by
  obtain ⟨now, isNow⟩ : ∃ now, now = world.clock + arrival.elapsed := ⟨_, rfl⟩
  have passed : world.clock ≤ now := isNow ▸ Nat.le_add_right _ _
  have follows := inStep.follows_later passed arrival.key
  obtain ⟨_, _, _, calls⟩ := step_spec inStep.sound tracks lingers keyPrefix isNow
  rw [calls] at agree
  have sameAllowed := agree.sameAllowed _ List.mem_cons_self
  have sameRemaining := agree.sameRemaining _ List.mem_cons_self
  have apart : ApartFromDeadline lingers now
      (world.redis (redisKey keyPrefix arrival.key)) := by
    intro doesLinger counter stored isDeadline
    have isServed : (some counter).filter (served lingers now) = some counter :=
      Option.filter_some_pos (by simp [served, keyServed, isDeadline, doesLinger])
    have notLive : liveCounter world.redis now (redisKey keyPrefix arrival.key) = none := by
      unfold liveCounter
      rw [stored]
      exact Option.filter_some_neg (by simp [served, keyServed, isDeadline])
    have noWindow : liveWindow world.memory.windows now arrival.key = none :=
      (notLive ▸ follows).eq_none
    rw [stored, isServed, noWindow] at sameAllowed sameRemaining
    exact @lingering_differs limits now arrival.key counter
      (inStep.sound _ counter stored).1 sameAllowed sameRemaining
  rw [RedisFixedWindowLimiter.filter_served apart] at sameAllowed
  unfold AnsweredAlike
  rw [← isNow]
  exact ⟨follows.decides sameAllowed, apart⟩

end InStep

/-- As long as no more keys are tracked than may be, both limiters answer all
calls alike and within the quota exactly if every call finds a limit that
decides, and no counter in the millisecond of its deadline. -/
theorem limitersAgree_iff {arrivals : List Arrival}
    (tracks : EveryStep (RateLimitWorld.step limits lingers keyPrefix)
      (fun world _ => TracksWithin limits world.memory) initial arrivals) :
    (∀ prior, prior <+: arrivals → LimitersAgree limits
        (run (RateLimitWorld.step limits lingers keyPrefix) initial prior).calls) ↔
      EveryStep (RateLimitWorld.step limits lingers keyPrefix)
        (AnsweredAlike limits lingers keyPrefix) initial arrivals :=
  @everyState_iff_everyStep_of_everyStep _ _ _ _ _ (InStep limits keyPrefix)
    (fun world => LimitersAgree limits world.calls)
    (fun _world _arrival inStep tracks alike => inStep.step tracks alike)
    (fun _world inStep => inStep.agrees)
    (fun _world _arrival inStep tracks agree => inStep.answeredAlike tracks agree)
    _ _ tracks (inStep_initial limits keyPrefix)

def limitsOfTwo : RateLimits :=
  ⟨2, 10, (5 : Nat), by decide +kernel, by decide⟩

/-- Three calls in a window of ten milliseconds, and one after it. -/
def fourArrivals : List Arrival :=
  [⟨"tenant", 0⟩, ⟨"tenant", 3⟩, ⟨"tenant", 3⟩, ⟨"tenant", 20⟩]

theorem limitersAgree_fourArrivals :
    LimitersAgree limitsOfTwo
      (run (RateLimitWorld.step limitsOfTwo false "rate:request") initial fourArrivals).calls := by
  refine (limitersAgree_iff (by decide +kernel)).mpr ?_ fourArrivals (List.prefix_refl _)
  apply everyStep_of_forall
  intro world arrival
  exact ⟨decides_of_whole (show limitsOfTwo.max = (2 : Nat) by rfl) _, nofun⟩

/-- The limit lies between one call and two. -/
def limitsOfOneAndAHalf : RateLimits :=
  ⟨3 / 2, 10, (5 : Nat), by decide +kernel, by decide⟩

theorem not_limitersAgree_oneAndAHalf :
    EveryStep (RateLimitWorld.step limitsOfOneAndAHalf false "rate:request")
        (fun world _ => TracksWithin limitsOfOneAndAHalf world.memory) initial fourArrivals ∧
      ¬ LimitersAgree limitsOfOneAndAHalf
        (run (RateLimitWorld.step limitsOfOneAndAHalf false "rate:request") initial
          [⟨"tenant", 0⟩, ⟨"tenant", 3⟩]).calls := by
  refine ⟨by decide +kernel, fun agree => ?_⟩
  have sameAllowed := agree.sameAllowed _ List.mem_cons_self
  revert sameAllowed
  decide +kernel

end RateLimitWorld

end PlatformArchitecture.Api
