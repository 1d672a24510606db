import PlatformArchitecture.Api.RateLimitRuns
import PlatformArchitecture.Api.RequestGate
import PlatformArchitecture.Foundations.FixedWindows

/-!
# Quotas across replicas

The charges of a key fall into the windows of its counter, so a limiter admits
no more than its limit to a window and no more than twice of it to any interval
of that length, whatever is served when, and whichever answers are lost.
-/

namespace PlatformArchitecture.Api

open PlatformArchitecture.Foundations
open PlatformArchitecture.Security
open RedisFixedWindowLimiter (Sound Store countInWindow served redisKey)

/-! ## The charges of one key -/

section Accounting

variable {Pid : Type} {limits : RateLimits} {clock : Nat}

/-- The charges that were counted in one window. -/
def chargesAt (deadline : Nat) (charges : List (Charge Pid)) : Nat :=
  charges.countP fun charge => decide (charge.resetAt = deadline)

/-- Those of them that were admitted. -/
def admittedAt (deadline : Nat) (charges : List (Charge Pid)) : Nat :=
  charges.countP fun charge => decide (charge.allowed = true ∧ charge.resetAt = deadline)

/-- The stored counter accounts for the charges of its key. -/
structure Accounted (limits : RateLimits) (clock : Nat) (stored : Option RedisCounter)
    (charges : List (Charge Pid)) : Prop where
  inWindows : InWindows Charge.moment Charge.resetAt limits.windowMs charges
  untouched : stored = none → charges = []
  inForce : ∀ counter, stored = some counter →
    ∃ deadline, counter.expiresAt = some deadline ∧ deadline ≤ clock + limits.windowMs ∧
      chargesAt deadline charges = counter.count ∧
      (∀ charge ∈ charges, charge.resetAt ≤ deadline) ∧
      ∃ charge ∈ charges, charge.resetAt = deadline
  quota : ∀ deadline, (admittedAt deadline charges : ℚ) ≤ limits.max

theorem Accounted.nothing : Accounted limits clock none ([] : List (Charge Pid)) where
  inWindows := InWindows.nil
  untouched _ := rfl
  inForce counter found := by cases found
  quota deadline := by
    rw [admittedAt, List.countP_nil, Nat.cast_zero]
    exact limits.max_pos.le

theorem Accounted.later {stored : Option RedisCounter} {charges : List (Charge Pid)}
    (accounted : Accounted limits clock stored charges) (elapsed : Nat) :
    Accounted limits (clock + elapsed) stored charges where
  inWindows := accounted.inWindows
  untouched := accounted.untouched
  inForce := by
    intro counter found
    obtain ⟨deadline, isDeadline, bound, counted⟩ := accounted.inForce counter found
    exact ⟨deadline, isDeadline, by omega, counted⟩
  quota := accounted.quota

/-- The window that a call is counted in: the one in force, or a new one. -/
structure CountedIn (limits : RateLimits) (clock deadline : Nat) (charges : List (Charge Pid))
    (answered : RateLimitResult × RedisCounter) : Prop where
  expires : answered.2.expiresAt = some deadline
  resets : answered.1.resetAt = deadline
  ahead : clock ≤ deadline
  bound : deadline ≤ clock + limits.windowMs
  last : ∀ charge ∈ charges,
    charge.resetAt = deadline ∨ charge.resetAt + limits.windowMs ≤ deadline
  counts : answered.2.count = chargesAt deadline charges + 1
  decides : answered.1.allowed = decide ((answered.2.count : ℚ) ≤ limits.max)

/-- Nothing was counted in a window that is still to end. -/
theorem chargesAt_eq_zero {deadline : Nat} {charges : List (Charge Pid)}
    (before : ∀ charge ∈ charges, charge.resetAt < deadline) : chargesAt deadline charges = 0 := by
  apply List.countP_eq_zero.mpr
  intro charge member isAt
  exact absurd (of_decide_eq_true isAt) (before charge member).ne

theorem Accounted.countedIn {stored : Option RedisCounter} {charges : List (Charge Pid)}
    (accounted : Accounted limits clock stored charges) (lingers : Bool) :
    ∃ deadline, CountedIn limits clock deadline charges
      (countInWindow limits clock (stored.filter (served lingers clock))) := by
  have newWindow : (∀ charge ∈ charges, charge.resetAt ≤ clock) →
      CountedIn limits clock (clock + limits.windowMs) charges
        (countInWindow limits clock none) := by
    intro before
    have positive := limits.windowMs_pos
    refine ⟨rfl, rfl, by omega, le_refl _, ?_, ?_, rfl⟩
    · intro charge member
      exact Or.inr (Nat.add_le_add_right (before charge member) _)
    · rw [chargesAt_eq_zero]
      · rfl
      · intro charge member
        have ended := before charge member
        omega
  cases stored with
  | none =>
      refine ⟨_, newWindow ?_⟩
      rw [accounted.untouched rfl]
      intro charge member
      exact absurd member List.not_mem_nil
  | some counter =>
      obtain ⟨deadline, isDeadline, bound, counts, last, current, isCharge, isCurrent⟩ :=
        accounted.inForce counter rfl
      cases isServed : served lingers clock counter with
      | false =>
          rw [Option.filter_some, isServed, if_neg Bool.false_ne_true]
          refine ⟨_, newWindow ?_⟩
          unfold served keyServed at isServed
          rw [isDeadline, Bool.or_eq_false_iff, decide_eq_false_iff_not] at isServed
          intro charge member
          exact (last charge member).trans (not_lt.mp isServed.1)
      | true =>
          rw [Option.filter_some, isServed, if_pos rfl]
          unfold served at isServed
          rw [isDeadline, keyServed_some] at isServed
          refine ⟨deadline, isDeadline, ?_, by omega, bound, ?_, ?_, rfl⟩
          · simp only [countInWindow, isDeadline, Option.getD_some]
          · intro charge member
            rcases Nat.eq_or_lt_of_le (last charge member) with same | before
            · exact Or.inl same
            · rw [← isCurrent] at before ⊢
              exact Or.inr (accounted.inWindows.apart charge member current isCharge before)
          · simp only [countInWindow, counts]

theorem chargesAt_cons (deadline : Nat) (charge : Charge Pid) (charges : List (Charge Pid)) :
    chargesAt deadline (charge :: charges) =
      chargesAt deadline charges + if charge.resetAt = deadline then 1 else 0 := by
  unfold chargesAt
  simp only [List.countP_cons, decide_eq_true_eq]

theorem admittedAt_cons (deadline : Nat) (charge : Charge Pid) (charges : List (Charge Pid)) :
    admittedAt deadline (charge :: charges) =
      admittedAt deadline charges +
        if charge.allowed = true ∧ charge.resetAt = deadline then 1 else 0 := by
  unfold admittedAt
  simp only [List.countP_cons, decide_eq_true_eq]

theorem admittedAt_le (deadline : Nat) (charges : List (Charge Pid)) :
    admittedAt deadline charges ≤ chargesAt deadline charges := by
  apply List.countP_mono_left
  intro charge _ isAdmitted
  exact decide_eq_true (of_decide_eq_true isAdmitted).2

/-- The counter accounts for one more charge. -/
theorem Accounted.charge {stored : Option RedisCounter} {charges : List (Charge Pid)}
    (accounted : Accounted limits clock stored charges)
    {answered : RateLimitResult × RedisCounter} {charge : Charge Pid} {deadline : Nat}
    (counted : CountedIn limits clock deadline charges answered)
    (isMoment : charge.moment = clock) (isEnd : charge.resetAt = answered.1.resetAt)
    (isAllowed : charge.allowed = answered.1.allowed) :
    Accounted limits clock (some answered.2) (charge :: charges) := by
  have isDeadline : charge.resetAt = deadline := isEnd.trans counted.resets
  refine ⟨?_, ?_, ?_, ?_⟩
  · apply accounted.inWindows.cons
    · rw [isMoment, isDeadline]
      exact ⟨counted.ahead, counted.bound⟩
    · rw [isDeadline]
      exact counted.last
  · intro absent
    cases absent
  · intro counter found
    cases found
    refine ⟨deadline, counted.expires, counted.bound, ?_, ?_, charge, List.mem_cons_self,
      isDeadline⟩
    · rw [chargesAt_cons, if_pos isDeadline, counted.counts]
    · intro other member
      rcases List.mem_cons.mp member with isNew | before
      · rw [isNew, isDeadline]
      · have order := counted.last other before
        omega
  · intro moment
    rw [admittedAt_cons]
    split
    · next admitted =>
        have within : ((answered.2.count : Nat) : ℚ) ≤ limits.max := by
          have decided := isAllowed.symm.trans admitted.1
          rw [counted.decides] at decided
          exact of_decide_eq_true decided
        have same : deadline = moment := isDeadline.symm.trans admitted.2
        have fewer : admittedAt moment charges + 1 ≤ answered.2.count := by
          rw [counted.counts, ← same]
          exact Nat.add_le_add_right (admittedAt_le deadline charges) 1
        exact (Nat.cast_le.mpr fewer).trans within
    · exact accounted.quota moment

/-- Of the charges in an interval of the length of the windows no more are
admitted than two windows hold. -/
theorem Accounted.inside {stored : Option RedisCounter} {charges : List (Charge Pid)}
    (accounted : Accounted limits clock stored charges) (start : Nat) :
    (charges.countP (fun charge => decide (charge.allowed = true ∧
        Inside Charge.moment limits.windowMs start charge)) : ℚ) ≤ 2 * limits.max := by
  have filtered := accounted.inWindows.filter Charge.allowed
  obtain ⟨first, second, bound⟩ := filtered.countP_inside_le start
  have admittedIs : ∀ deadline, (charges.filter Charge.allowed).countP
      (fun charge => decide (charge.resetAt = deadline)) = admittedAt deadline charges := by
    intro deadline
    rw [List.countP_filter, admittedAt]
    congr 1
    funext charge
    simp [Bool.and_comm]
  have insideIs : (charges.filter Charge.allowed).countP
      (fun charge => decide (Inside Charge.moment limits.windowMs start charge)) =
        charges.countP fun charge => decide (charge.allowed = true ∧
          Inside Charge.moment limits.windowMs start charge) := by
    rw [List.countP_filter]
    congr 1
    funext charge
    simp [Bool.and_comm]
  rw [admittedIs, admittedIs, insideIs] at bound
  calc (charges.countP (fun charge => decide (charge.allowed = true ∧
        Inside Charge.moment limits.windowMs start charge)) : ℚ)
      ≤ admittedAt first charges + admittedAt second charges := by exact_mod_cast bound
    _ ≤ limits.max + limits.max := add_le_add (accounted.quota first) (accounted.quota second)
    _ = 2 * limits.max := (two_mul limits.max).symm

end Accounting

/-! ## The stages of a request -/

section Stages

variable (settings : GateSettings) (request : ApiRequest)

/-- The response of a request that was refused or has failed. -/
def refuse (error : ApiError) : GateProgram ApiResponse :=
  .done (errorResponse request error)

def handleFor (tenant : Option TenantContext) : GateProgram ApiResponse :=
  .branch (.handle tenant) (fun statusCode => .done ⟨statusCode, none⟩) (refuse request)

def chargeDaily (tenant : TenantContext) : GateProgram ApiResponse :=
  .branch (.consume .daily tenant.tenantId)
    (fun quota =>
      if quota.allowed = true then handleFor request (some tenant)
      else refuse request ⟨429, "QUOTA_EXCEEDED", "Tenant daily request quota exceeded"⟩)
    (refuse request)

def chargeRequest (tenant : TenantContext) : GateProgram ApiResponse :=
  .branch (.consume .request (request.limitKey tenant))
    (fun requestLimit =>
      if requestLimit.allowed = true then
        if settings.dailyLimits.isSome = true then chargeDaily request tenant
        else handleFor request (some tenant)
      else refuse request ⟨429, "RATE_LIMITED", "Request rate limit exceeded"⟩)
    (refuse request)

def verifyToken (token : String) : GateProgram ApiResponse :=
  .branch (.verify token)
    (fun
      | some tenant => chargeRequest settings request tenant
      | none => refuse request ⟨401, "INVALID_TOKEN",
          "Authentication token is invalid or does not satisfy policy"⟩)
    (refuse request)

/-- The rest of a request whose hook is the program. -/
def afterHook (hook : GateProgram (Option TenantContext)) : GateProgram ApiResponse :=
  (hook >>= fun tenant => do
    let statusCode ← awaitGate (.handle tenant)
    return ⟨statusCode, none⟩).orElse fun error => pure (errorResponse request error)

theorem afterHook_done (tenant : Option TenantContext) :
    afterHook request (.done tenant) = handleFor request tenant := by
  simp only [afterHook, Program.done_bind, Program.call_bind, Program.branch_orElse]
  rfl

theorem afterHook_fail (error : ApiError) :
    afterHook request (.fail error) = refuse request error :=
  rfl

theorem afterHook_branch (statement : GateStatement)
    (next : statement.Reply → GateProgram (Option TenantContext)) :
    afterHook request (.branch statement next .fail) =
      .branch statement (fun reply => afterHook request (next reply)) (refuse request) := by
  simp only [afterHook, Program.branch_bind, Program.branch_orElse]
  rfl

/-- What follows when the quota of the route has been charged. -/
theorem afterHook_charged (tenant : TenantContext) (requestLimit : RateLimitResult) :
    afterHook request (do
      enforceRateLimit requestLimit "RATE_LIMITED" "Request rate limit exceeded"
      if settings.dailyLimits.isSome = true then
        .branch (.consume .daily tenant.tenantId)
          (fun quota => do
            enforceRateLimit quota "QUOTA_EXCEEDED" "Tenant daily request quota exceeded"
            return some tenant) .fail
      else
        return some tenant) =
      if requestLimit.allowed = true then
        if settings.dailyLimits.isSome = true then chargeDaily request tenant
        else handleFor request (some tenant)
      else refuse request ⟨429, "RATE_LIMITED", "Request rate limit exceeded"⟩ := by
  unfold enforceRateLimit
  by_cases allowed : requestLimit.allowed = true
  · simp only [if_pos allowed, Program.pure_eq, Program.done_bind]
    by_cases hasDaily : settings.dailyLimits.isSome = true
    · simp only [if_pos hasDaily, afterHook_branch, chargeDaily]
      congr 1
      funext quota
      by_cases charged : quota.allowed = true
      · simp only [if_pos charged, Program.done_bind]
        exact afterHook_done request (some tenant)
      · simp only [if_neg charged, Program.throw_eq, Program.fail_bind]
        exact afterHook_fail request _
    · simp only [if_neg hasDaily]
      exact afterHook_done request (some tenant)
  · simp only [if_neg allowed, Program.throw_eq, Program.fail_bind]
    exact afterHook_fail request _

theorem serveRequest_eq :
    serveRequest settings request =
      if request.isPublic = true then handleFor request none
      else
        match bearerToken request.authorization with
        | some token => verifyToken settings request token
        | none => refuse request ⟨401, "AUTHENTICATION_REQUIRED", "Bearer token is required"⟩ := by
  change afterHook request (onRequest settings request) = _
  unfold onRequest
  by_cases isPublic : request.isPublic = true
  · simp only [if_pos isPublic]
    exact afterHook_done request none
  · simp only [if_neg isPublic, authenticate]
    cases bearerToken request.authorization with
    | none => rfl
    | some token =>
        simp only [Program.call_bind, Program.branch_bind, Program.fail_bind, afterHook_branch,
          verifyToken]
        congr 1
        funext identity
        cases identity with
        | none => rfl
        | some tenant =>
            simp only [Program.pure_eq, Program.done_bind, afterHook_branch, chargeRequest]
            congr 1
            funext requestLimit
            exact afterHook_charged settings request tenant requestLimit

end Stages

/-! ## What is recorded of a request -/

section Records

variable {Pid : Type}

/-- The charges of one key of a limiter. -/
def GateState.chargesOf (state : GateState Pid) (limiter : GateLimiter) (key : String) :
    List (Charge Pid) :=
  state.charges.filter fun charge => decide (charge.limiter = limiter ∧ charge.key = key)

/-- The identity provider has named the tenant for the token of the request. -/
def Verified (requests : Pid → ApiRequest) (state : GateState Pid) (pid : Pid)
    (tenant : TenantContext) : Prop :=
  ∃ token, bearerToken (requests pid).authorization = some token ∧
    (pid, token, tenant) ∈ state.verified

/-- The limiter has charged the request and admitted it. -/
def Charged (requests : Pid → ApiRequest) (state : GateState Pid) (pid : Pid)
    (tenant : TenantContext) (limiter : GateLimiter) : Prop :=
  ∃ charge ∈ state.charges, charge.pid = pid ∧ charge.limiter = limiter ∧
    charge.key = (requests pid).keyFor tenant limiter ∧ charge.allowed = true

/-- The request is for the health of the service, or it has passed the gate. -/
def Admitted (settings : GateSettings) (requests : Pid → ApiRequest) (state : GateState Pid)
    (pid : Pid) : Option TenantContext → Prop
  | none => (requests pid).isPublic = true
  | some tenant =>
      Verified requests state pid tenant ∧ Charged requests state pid tenant .request ∧
        (settings.dailyLimits.isSome = true → Charged requests state pid tenant .daily)

def GateState.Unhandled (state : GateState Pid) (pid : Pid) : Prop :=
  pid ∉ state.handled.map Prod.fst

/-- What has been verified and charged stays recorded. -/
structure GateState.Grows (before after : GateState Pid) : Prop where
  verified : before.verified ⊆ after.verified
  charges : before.charges ⊆ after.charges

variable {settings : GateSettings} {requests : Pid → ApiRequest} {before after : GateState Pid}
  {pid : Pid} {tenant : TenantContext}

theorem Verified.mono (grows : before.Grows after)
    (verified : Verified requests before pid tenant) : Verified requests after pid tenant := by
  obtain ⟨token, isToken, member⟩ := verified
  exact ⟨token, isToken, grows.verified member⟩

theorem Charged.mono {limiter : GateLimiter} (grows : before.Grows after)
    (charged : Charged requests before pid tenant limiter) :
    Charged requests after pid tenant limiter := by
  obtain ⟨charge, member, facts⟩ := charged
  exact ⟨charge, grows.charges member, facts⟩

theorem Admitted.mono (grows : before.Grows after) {known : Option TenantContext}
    (admitted : Admitted settings requests before pid known) :
    Admitted settings requests after pid known := by
  cases known with
  | none => exact admitted
  | some tenant =>
      obtain ⟨verified, charged, daily⟩ := admitted
      exact ⟨verified.mono grows, charged.mono grows, fun isSome => (daily isSome).mono grows⟩

/-- Where a request stands, and what has been recorded of it. -/
inductive GatePoint (settings : GateSettings) (requests : Pid → ApiRequest) (pid : Pid)
    (state : GateState Pid) : GateProgram ApiResponse → Prop where
  | verifying {token : String} (isToken : bearerToken (requests pid).authorization = some token)
      (unhandled : state.Unhandled pid) :
      GatePoint settings requests pid state (verifyToken settings (requests pid) token)
  | charging {tenant : TenantContext} (verified : Verified requests state pid tenant)
      (unhandled : state.Unhandled pid) :
      GatePoint settings requests pid state (chargeRequest settings (requests pid) tenant)
  | chargingDaily {tenant : TenantContext} (verified : Verified requests state pid tenant)
      (charged : Charged requests state pid tenant .request)
      (unhandled : state.Unhandled pid) :
      GatePoint settings requests pid state (chargeDaily (requests pid) tenant)
  | handling {known : Option TenantContext} (admitted : Admitted settings requests state pid known)
      (unhandled : state.Unhandled pid) :
      GatePoint settings requests pid state (handleFor (requests pid) known)
  | responded (response : ApiResponse) : GatePoint settings requests pid state (.done response)

theorem GatePoint.start (settings : GateSettings) (requests : Pid → ApiRequest) (pid : Pid) :
    GatePoint settings requests pid GateState.initial (serveRequest settings (requests pid)) := by
  have unhandled : (GateState.initial : GateState Pid).Unhandled pid := List.not_mem_nil
  rw [serveRequest_eq]
  split
  · next isPublic => exact .handling isPublic unhandled
  · split
    · next isToken => exact .verifying isToken unhandled
    · exact .responded _

/-- A statement of another request leaves a request where it stands. -/
theorem GatePoint.frame (grows : before.Grows after)
    (handled : before.Unhandled pid → after.Unhandled pid) {program : GateProgram ApiResponse}
    (point : GatePoint settings requests pid before program) :
    GatePoint settings requests pid after program := by
  cases point with
  | verifying isToken unhandled => exact .verifying isToken (handled unhandled)
  | charging verified unhandled => exact .charging (verified.mono grows) (handled unhandled)
  | chargingDaily verified charged unhandled =>
      exact .chargingDaily (verified.mono grows) (charged.mono grows) (handled unhandled)
  | handling admitted unhandled => exact .handling (admitted.mono grows) (handled unhandled)
  | responded response => exact .responded response

/-- What holds of the shared state after any statements. -/
structure GateSound (settings : GateSettings) (requests : Pid → ApiRequest)
    (state : GateState Pid) : Prop where
  redis : Sound state.redis
  accounted : ∀ limiter limits, settings.limits limiter = some limits → ∀ key,
    Accounted limits state.clock (state.redis (redisKey limiter.keyPrefix key))
      (state.chargesOf limiter key)
  once : (state.handled.map Prod.fst).Nodup
  admitted : ∀ entry ∈ state.handled, Admitted settings requests state entry.1 entry.2
  afterRequest : ∀ charge ∈ state.charges, charge.limiter = .daily →
    ∃ tenant, charge.key = tenant.tenantId ∧ Charged requests state charge.pid tenant .request

theorem GateSound.start : GateSound settings requests GateState.initial where
  redis key counter found := by cases found
  accounted limiter limits _isLimits key := Accounted.nothing
  once := List.nodup_nil
  admitted entry member := absurd member List.not_mem_nil
  afterRequest charge member := absurd member List.not_mem_nil

theorem GateSound.later {state : GateState Pid} (sound : GateSound settings requests state)
    (elapsed : Nat) :
    GateSound settings requests { state with clock := state.clock + elapsed } where
  redis := sound.redis
  accounted limiter limits isLimits key :=
    (sound.accounted limiter limits isLimits key).later elapsed
  once := sound.once
  admitted := sound.admitted
  afterRequest := sound.afterRequest

theorem GateSound.verify {state : GateState Pid} (sound : GateSound settings requests state)
    (entry : Pid × String × TenantContext) :
    GateSound settings requests { state with verified := entry :: state.verified } where
  redis := sound.redis
  accounted := sound.accounted
  once := sound.once
  admitted handled member := by
    have grows : state.Grows { state with verified := entry :: state.verified } :=
      ⟨List.subset_cons_self _ _, List.Subset.refl _⟩
    exact (sound.admitted handled member).mono grows
  afterRequest := sound.afterRequest

theorem GateSound.handle {state : GateState Pid} (sound : GateSound settings requests state)
    {known : Option TenantContext} (unhandled : state.Unhandled pid)
    (admitted : Admitted settings requests state pid known) :
    GateSound settings requests { state with handled := (pid, known) :: state.handled } where
  redis := sound.redis
  accounted := sound.accounted
  once := List.nodup_cons.mpr ⟨unhandled, sound.once⟩
  admitted := by
    intro entry member
    rcases List.mem_cons.mp member with isNew | before
    · rw [isNew]
      exact admitted
    · exact sound.admitted entry before
  afterRequest := sound.afterRequest

/-- The state after Redis has counted a call. -/
def afterCharge (limits : RateLimits) (pid : Pid) (lingers : Bool) (limiter : GateLimiter)
    (key : String) (state : GateState Pid) : GateState Pid :=
  let counted :=
    RedisFixedWindowLimiter.consume limits lingers limiter.keyPrefix state.redis key state.clock
  { state with
    redis := counted.2
    charges :=
      ⟨pid, limiter, key, state.clock, counted.1.resetAt, counted.1.allowed⟩ :: state.charges }

/-- A call is counted and answered, or it fails, counted or not. -/
theorem consumeFor_cases (limits : RateLimits) (pid : Pid) (choice : GateChoice)
    (limiter : GateLimiter) (key : String) (state : GateState Pid) :
    consumeFor limits pid choice limiter key state = (.error .internal, state) ∨
      consumeFor limits pid choice limiter key state =
        (.error .internal, afterCharge limits pid choice.lingers limiter key state) ∨
      consumeFor limits pid choice limiter key state =
        (.ok (RedisFixedWindowLimiter.consume limits choice.lingers limiter.keyPrefix state.redis
          key state.clock).1, afterCharge limits pid choice.lingers limiter key state) := by
  unfold consumeFor
  cases choice.fault with
  | none => exact Or.inr (Or.inr rfl)
  | refused => exact Or.inl rfl
  | answerLost => exact Or.inr (Or.inl rfl)

/-- The keys of the two limiters are apart. -/
theorem limiterKey_inj {first second : GateLimiter} {key other : String} :
    redisKey first.keyPrefix key = redisKey second.keyPrefix other ↔
      first = second ∧ key = other := by
  constructor
  · intro same
    have isLimiter : first = second := by
      cases first with
      | request =>
          cases second with
          | request => rfl
          | daily =>
              have texts := congrArg String.toList same
              simp [redisKey, GateLimiter.keyPrefix] at texts
      | daily =>
          cases second with
          | request =>
              have texts := congrArg String.toList same
              simp [redisKey, GateLimiter.keyPrefix] at texts
          | daily => rfl
    rw [isLimiter] at same
    exact ⟨isLimiter, RateLimitWorld.redisKey_inj.mp same⟩
  · rintro ⟨rfl, rfl⟩
    rfl

theorem grows_afterCharge (limits : RateLimits) (pid : Pid) (lingers : Bool)
    (limiter : GateLimiter) (key : String) (state : GateState Pid) :
    state.Grows (afterCharge limits pid lingers limiter key state) :=
  ⟨List.Subset.refl _, List.subset_cons_self _ _⟩

/-- A charge keeps the account of its key and leaves the others alone. -/
theorem GateSound.charge {state : GateState Pid} (sound : GateSound settings requests state)
    {limiter : GateLimiter} {limits : RateLimits} (isLimits : settings.limits limiter = some limits)
    {key : String} (lingers : Bool)
    (daily : limiter = .daily →
      ∃ tenant, key = tenant.tenantId ∧ Charged requests state pid tenant .request) :
    GateSound settings requests (afterCharge limits pid lingers limiter key state) := by
  have grows := grows_afterCharge limits pid lingers limiter key state
  have counted : RedisFixedWindowLimiter.consume limits lingers limiter.keyPrefix state.redis key
      state.clock = _ :=
    RedisFixedWindowLimiter.consume_spec sound.redis lingers limiter.keyPrefix key state.clock
  refine ⟨?_, ?_, sound.once, ?_, ?_⟩
  · simp only [afterCharge, counted]
    apply sound.redis.update
    intro current isCurrent
    exact (Option.filter_eq_some_iff.mp isCurrent).1
  · intro other otherLimits isOther otherKey
    by_cases same : other = limiter ∧ otherKey = key
    · obtain ⟨rfl, rfl⟩ := same
      obtain rfl : otherLimits = limits := Option.some.inj (isOther.symm.trans isLimits)
      have accounted := sound.accounted other otherLimits isOther otherKey
      obtain ⟨deadline, countedIn⟩ := accounted.countedIn lingers
      simp only [afterCharge, counted, Function.update_self, GateState.chargesOf]
      rw [List.filter_cons_of_pos (by simp)]
      exact accounted.charge countedIn rfl rfl rfl
    · have otherStored : redisKey other.keyPrefix otherKey ≠ redisKey limiter.keyPrefix key :=
        fun sameKey => same (limiterKey_inj.mp sameKey)
      simp only [afterCharge, counted, GateState.chargesOf]
      rw [Function.update_of_ne otherStored, List.filter_cons_of_neg]
      · exact sound.accounted other otherLimits isOther otherKey
      · intro isOwn
        obtain ⟨isLimiter, isKey⟩ := of_decide_eq_true isOwn
        exact same ⟨isLimiter.symm, isKey.symm⟩
  · intro entry member
    exact (sound.admitted entry member).mono grows
  · intro charge member isDaily
    rcases List.mem_cons.mp member with isNew | before
    · rw [isNew] at isDaily ⊢
      obtain ⟨tenant, isKey, charged⟩ := daily isDaily
      exact ⟨tenant, isKey, charged.mono grows⟩
    · obtain ⟨tenant, isKey, charged⟩ := sound.afterRequest charge before isDaily
      exact ⟨tenant, isKey, charged.mono grows⟩

/-- What a call of `consume` leaves behind. -/
theorem consume_outcome {state : GateState Pid} (sound : GateSound settings requests state)
    {choice : GateChoice} {limiter : GateLimiter} {key : String}
    (daily : limiter = .daily →
      ∃ tenant, key = tenant.tenantId ∧ Charged requests state pid tenant .request)
    {reply : Except ApiError RateLimitResult}
    (outcome : gateOutcome settings pid choice (.consume limiter key) state = (reply, after)) :
    GateSound settings requests after ∧ state.Grows after ∧ after.handled = state.handled ∧
      ∀ result, reply = .ok result → ∃ charge ∈ after.charges, charge.pid = pid ∧
        charge.limiter = limiter ∧ charge.key = key ∧ charge.allowed = result.allowed := by
  have soundNow := sound.later choice.elapsed
  have unchanged : state.Grows { state with clock := state.clock + choice.elapsed } :=
    ⟨List.Subset.refl _, List.Subset.refl _⟩
  cases isLimits : settings.limits limiter with
  | none =>
      simp only [gateOutcome, isLimits, Prod.mk.injEq] at outcome
      obtain ⟨rfl, rfl⟩ := outcome
      refine ⟨soundNow, unchanged, rfl, ?_⟩
      intro result failed
      cases failed
  | some limits =>
      have grows := grows_afterCharge limits pid choice.lingers limiter key
        { state with clock := state.clock + choice.elapsed }
      have charged := soundNow.charge isLimits choice.lingers daily
      have whole : state.Grows (afterCharge limits pid choice.lingers limiter key
          { state with clock := state.clock + choice.elapsed }) :=
        ⟨grows.verified, grows.charges⟩
      simp only [gateOutcome, isLimits] at outcome
      rcases consumeFor_cases limits pid choice limiter key
          { state with clock := state.clock + choice.elapsed } with failed | lost | answered
      · rw [failed, Prod.mk.injEq] at outcome
        obtain ⟨rfl, rfl⟩ := outcome
        refine ⟨soundNow, unchanged, rfl, ?_⟩
        intro result isOk
        cases isOk
      · rw [lost, Prod.mk.injEq] at outcome
        obtain ⟨rfl, rfl⟩ := outcome
        refine ⟨charged, whole, rfl, ?_⟩
        intro result isOk
        cases isOk
      · rw [answered, Prod.mk.injEq] at outcome
        obtain ⟨rfl, rfl⟩ := outcome
        refine ⟨charged, whole, rfl, ?_⟩
        intro result isOk
        cases isOk
        exact ⟨_, List.mem_cons_self, rfl, rfl, rfl, rfl⟩

theorem GateState.Unhandled.stays {state : GateState Pid} (same : after.handled = state.handled)
    {other : Pid} (unhandled : state.Unhandled other) : after.Unhandled other := by
  rw [GateState.Unhandled, same]
  exact unhandled

/-- A statement keeps the shared state sound and leads its request on. -/
structure GateStep (settings : GateSettings) (requests : Pid → ApiRequest) (pid : Pid)
    (before after : GateState Pid) (rest : GateProgram ApiResponse) : Prop where
  sound : GateSound settings requests after
  point : GatePoint settings requests pid after rest
  grows : before.Grows after
  others : ∀ other, other ≠ pid → before.Unhandled other → after.Unhandled other

section Points

variable {state : GateState Pid} {choice : GateChoice} {statement : GateStatement}
  {next : Except ApiError statement.Reply → GateProgram ApiResponse}
  {reply : Except ApiError statement.Reply}

theorem verifyToken_step (sound : GateSound settings requests state) {token : String}
    (isToken : bearerToken (requests pid).authorization = some token)
    (unhandled : state.Unhandled pid)
    (isProgram : verifyToken settings (requests pid) token = .perform statement next)
    (outcome : gateOutcome settings pid choice statement state = (reply, after)) :
    GateStep settings requests pid state after (next reply) := by
  have soundNow := sound.later choice.elapsed
  unfold verifyToken Program.branch at isProgram
  cases isProgram
  cases identity : choice.identity with
  | none =>
      simp only [gateOutcome, identity, Prod.mk.injEq] at outcome
      obtain ⟨rfl, rfl⟩ := outcome
      exact ⟨soundNow, .responded _, ⟨List.Subset.refl _, List.Subset.refl _⟩,
        fun _ _ stays => stays⟩
  | some tenant =>
      simp only [gateOutcome, identity, Prod.mk.injEq] at outcome
      obtain ⟨rfl, rfl⟩ := outcome
      refine ⟨soundNow.verify _, ?_, ⟨List.subset_cons_self _ _, List.Subset.refl _⟩,
        fun _ _ stays => stays⟩
      exact .charging ⟨_, isToken, List.mem_cons_self⟩ unhandled

/-- The quota of the route is charged before that of the tenant. -/
theorem chargeRequest_step (sound : GateSound settings requests state) {tenant : TenantContext}
    (verified : Verified requests state pid tenant) (unhandled : state.Unhandled pid)
    (isProgram : chargeRequest settings (requests pid) tenant = .perform statement next)
    (outcome : gateOutcome settings pid choice statement state = (reply, after)) :
    GateStep settings requests pid state after (next reply) := by
  unfold chargeRequest Program.branch at isProgram
  cases isProgram
  obtain ⟨soundAfter, grows, handled, charged⟩ :=
    consume_outcome sound (fun isDaily => by cases isDaily) outcome
  refine ⟨soundAfter, ?_, grows, fun _ _ stays => stays.stays handled⟩
  cases reply with
  | error error => exact .responded _
  | ok result =>
      obtain ⟨charge, member, isPid, isLimiter, isKey, sameAllowed⟩ := charged result rfl
      dsimp only
      split
      · next allowed =>
          have isCharged : Charged requests after pid tenant .request :=
            ⟨charge, member, isPid, isLimiter, isKey, sameAllowed.trans allowed⟩
          split
          · exact .chargingDaily (verified.mono grows) isCharged (unhandled.stays handled)
          · next noDaily =>
              have admitted : Admitted settings requests after pid (some tenant) :=
                ⟨verified.mono grows, isCharged, fun isSome => absurd isSome noDaily⟩
              exact .handling admitted (unhandled.stays handled)
      · exact .responded _

theorem chargeDaily_step (sound : GateSound settings requests state) {tenant : TenantContext}
    (verified : Verified requests state pid tenant)
    (charged : Charged requests state pid tenant .request) (unhandled : state.Unhandled pid)
    (isProgram : chargeDaily (requests pid) tenant = .perform statement next)
    (outcome : gateOutcome settings pid choice statement state = (reply, after)) :
    GateStep settings requests pid state after (next reply) := by
  unfold chargeDaily Program.branch at isProgram
  cases isProgram
  obtain ⟨soundAfter, grows, handled, chargedDaily⟩ :=
    consume_outcome sound (fun _ => ⟨tenant, rfl, charged⟩) outcome
  refine ⟨soundAfter, ?_, grows, fun _ _ stays => stays.stays handled⟩
  cases reply with
  | error error => exact .responded _
  | ok result =>
      obtain ⟨charge, member, isPid, isLimiter, isKey, sameAllowed⟩ := chargedDaily result rfl
      dsimp only
      split
      · next allowed =>
          have admitted : Admitted settings requests after pid (some tenant) :=
            ⟨verified.mono grows, charged.mono grows, fun _ =>
              ⟨charge, member, isPid, isLimiter, isKey, sameAllowed.trans allowed⟩⟩
          exact .handling admitted (unhandled.stays handled)
      · exact .responded _

theorem handleFor_step (sound : GateSound settings requests state)
    {known : Option TenantContext} (admitted : Admitted settings requests state pid known)
    (unhandled : state.Unhandled pid)
    (isProgram : handleFor (requests pid) known = .perform statement next)
    (outcome : gateOutcome settings pid choice statement state = (reply, after)) :
    GateStep settings requests pid state after (next reply) := by
  have soundNow := sound.later choice.elapsed
  unfold handleFor Program.branch at isProgram
  cases isProgram
  simp only [gateOutcome, Prod.mk.injEq] at outcome
  obtain ⟨rfl, rfl⟩ := outcome
  refine ⟨soundNow.handle unhandled admitted, ?_, ⟨List.Subset.refl _, List.Subset.refl _⟩, ?_⟩
  · cases choice.handler with
    | error error => exact .responded _
    | ok statusCode => exact .responded _
  · intro other different stays member
    rcases List.mem_cons.mp member with isOwn | before
    · exact different isOwn
    · exact stays before

theorem GatePoint.step (sound : GateSound settings requests state)
    {program : GateProgram ApiResponse} (point : GatePoint settings requests pid state program)
    (isProgram : program = .perform statement next)
    (outcome : gateOutcome settings pid choice statement state = (reply, after)) :
    GateStep settings requests pid state after (next reply) := by
  cases point with
  | responded response => cases isProgram
  | verifying isToken unhandled =>
      exact verifyToken_step sound isToken unhandled isProgram outcome
  | charging verified unhandled =>
      exact chargeRequest_step sound verified unhandled isProgram outcome
  | chargingDaily verified charged unhandled =>
      exact chargeDaily_step sound verified charged unhandled isProgram outcome
  | handling admitted unhandled =>
      exact handleFor_step sound admitted unhandled isProgram outcome

end Points

end Records

/-! ## Runs of the service -/

section Runs

variable {Pid : Type} [DecidableEq Pid]

/-- The requests that were handled, and that the limiter admitted under the key
at a moment of the interval. -/
def handledInside (state : GateState Pid) (limiter : GateLimiter) (key : String)
    (windowMs start : Nat) : Nat :=
  state.handled.countP fun entry => state.charges.any fun charge =>
    decide (charge.pid = entry.1 ∧ charge.limiter = limiter ∧ charge.key = key ∧
      charge.allowed = true ∧ Inside Charge.moment windowMs start charge)

/-- A handler runs only behind the gate, once for its request, and within twice
the limit of each limiter in any interval of its length.  What the first limiter
refuses is not charged to the tenant. -/
structure RequestsGated (settings : GateSettings) (requests : Pid → ApiRequest)
    (state : GateState Pid) : Prop where
  admitted : ∀ entry ∈ state.handled, Admitted settings requests state entry.1 entry.2
  once : (state.handled.map Prod.fst).Nodup
  afterRequest : ∀ charge ∈ state.charges, charge.limiter = .daily →
    ∃ tenant, charge.key = tenant.tenantId ∧ Charged requests state charge.pid tenant .request
  quota : ∀ limiter limits, settings.limits limiter = some limits → ∀ key start,
    (handledInside state limiter key limits.windowMs start : ℚ) ≤ 2 * limits.max

/-- Handled requests are no more than the charges they were admitted by. -/
theorem handledInside_le {state : GateState Pid} (once : (state.handled.map Prod.fst).Nodup)
    (limiter : GateLimiter) (key : String) (windowMs start : Nat) :
    handledInside state limiter key windowMs start ≤
      (state.chargesOf limiter key).countP fun charge =>
        decide (charge.allowed = true ∧ Inside Charge.moment windowMs start charge) := by
  rw [handledInside, GateState.chargesOf, List.countP_filter, List.countP_eq_length_filter,
    List.countP_eq_length_filter, ← List.length_map Prod.fst, ← List.length_map Charge.pid]
  apply List.Subperm.length_le
  apply List.subperm_of_subset (once.sublist (List.filter_sublist.map _))
  intro pid member
  obtain ⟨entry, isHandled, rfl⟩ := List.mem_map.mp member
  obtain ⟨charge, isCharge, facts⟩ := List.any_eq_true.mp (List.mem_filter.mp isHandled).2
  obtain ⟨isPid, isLimiter, isKey, allowed, inside⟩ := of_decide_eq_true facts
  refine List.mem_map.mpr ⟨charge, List.mem_filter.mpr ⟨isCharge, ?_⟩, isPid⟩
  rw [Bool.and_eq_true]
  exact ⟨decide_eq_true ⟨allowed, inside⟩, decide_eq_true ⟨isLimiter, isKey⟩⟩

theorem GateSound.gated {settings : GateSettings} {requests : Pid → ApiRequest}
    {state : GateState Pid} (sound : GateSound settings requests state) :
    RequestsGated settings requests state where
  admitted := sound.admitted
  once := sound.once
  afterRequest := sound.afterRequest
  quota := by
    intro limiter limits isLimits key start
    have fewer := handledInside_le sound.once limiter key limits.windowMs start
    exact (Nat.cast_le.mpr fewer).trans
      ((sound.accounted limiter limits isLimits key).inside start)

theorem consistent_step (settings : GateSettings) (requests : Pid → ApiRequest)
    (world : GateWorld Pid) (event : Event Pid GateChoice)
    (consistent : world.Consistent (GateSound settings requests) (GatePoint settings requests)) :
    (world.step (gateServer settings) event).Consistent (GateSound settings requests)
      (GatePoint settings requests) := by
  refine @World.Consistent.step _ _ _ _ _ _ _ _ _ _ _ (fun _ _ => True) ?_ ?_ world event
    consistent trivial
  · intro world pid choice statement next reply shared consistent current _ answer
    have outcome := Option.some.inj answer
    have moved := (consistent.points pid _ current).step consistent.shared rfl outcome
    refine ⟨moved.sound, moved.point, ?_⟩
    intro other program different point
    exact point.frame moved.grows (moved.others other different)
  · intro pid state sound
    exact ⟨sound, fun _ _ point => point⟩

/-- Whatever replicas serve whatever requests in whatever order, with any fate of
their calls, every handler runs behind the gate and within the quotas. -/
theorem requests_gated (settings : GateSettings) (requests : Pid → ApiRequest)
    (events : List (Event Pid GateChoice)) :
    RequestsGated settings requests
      (Foundations.run (World.step (gateServer settings)) (gateStart settings requests)
        events).shared := by
  have start : (gateStart settings requests).Consistent (GateSound settings requests)
      (GatePoint settings requests) := by
    refine ⟨GateSound.start, ?_⟩
    intro pid program running
    cases running
    exact GatePoint.start settings requests pid
  exact (run_invariant_of_step (consistent_step settings requests) events start).shared.gated

end Runs

theorem oneRequest_pos : (0 : ℚ) < 1 :=
  one_pos

/-- One request a minute and two a day. -/
def oneEachMinute : GateSettings where
  rpm := 1
  rpm_pos := oneRequest_pos
  dailyQuota := .finite 2

def listProjects (requestId : String) : ApiRequest where
  url := "/v1/projects"
  authorization := some "Bearer token"
  routeUrl := some "/v1/projects"
  requestId

/-- What is decided for a request of one tenant, a millisecond after the last
decision. -/
def tenantCalls (pid : Bool) : Event Bool GateChoice :=
  .statement pid
    { elapsed := 1
      fault := .none
      identity := some ⟨⟨"tenant-1", none⟩, "user-1", [], [], none, false⟩
      lingers := false
      handler := .ok 200 }

/-- The first of two requests of a tenant is handled, the second is one too
many. -/
theorem requests_gated_twoRequests :
    let requests := fun second : Bool => listProjects (if second then "second" else "first")
    let state := (Foundations.run (World.step (gateServer oneEachMinute))
      (gateStart oneEachMinute requests)
      [tenantCalls false, tenantCalls false, tenantCalls true, tenantCalls false,
        tenantCalls true, tenantCalls false, tenantCalls true]).shared
    RequestsGated oneEachMinute requests state ∧ state.handled.map Prod.fst = [false] :=
  ⟨requests_gated oneEachMinute _ _, by decide +kernel⟩

end PlatformArchitecture.Api
