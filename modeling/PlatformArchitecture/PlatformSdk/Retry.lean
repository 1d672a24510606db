import PlatformArchitecture.Foundations.JsNumbers
import PlatformArchitecture.Foundations.RetryLoops

/-!
# Retries with backoff

`withRetry` calls a function until its promise fulfils, it rejects with an
error that is not transient, or the attempts are used up.  Between two calls it
waits for a random part of a bound that doubles.
-/

namespace PlatformArchitecture.PlatformSdk.Retry

open PlatformArchitecture.Foundations

variable {Reason Value : Type}

/-- What is thrown: an error of the three classes, or any other value. -/
inductive Thrown (Reason : Type) where
  | transientDependencyError (message : String)
  | permanentDependencyError (message : String)
  /-- `Timed out after ${timeoutMs}ms`. -/
  | timeoutError (timeoutMs : JsNumber)
  | other (reason : Reason)
  | undefined

/-- `e instanceof TransientDependencyError`, which a `TimeoutError` extends. -/
def Thrown.isTransient : Thrown Reason → Bool
  | .transientDependencyError _ | .timeoutError _ => true
  | .permanentDependencyError _ | .other _ | .undefined => false

structure RetryOptions where
  attempts : Int
  baseMs : JsNumber
  maxMs : JsNumber
  timeoutMs : Option JsNumber

def defaultOptions : RetryOptions :=
  ⟨3, .finite 100, .finite 2000, none⟩

/-- A call of `fn`: how its promise settles, and whether the timer of
`withTimeout` fires before it does. -/
structure Invocation (Reason Value : Type) where
  settled : Except (Thrown Reason) Value
  late : Bool

def withTimeout (invocation : Invocation Reason Value) (timeoutMs : JsNumber) :
    Except (Thrown Reason) Value :=
  if invocation.late then .error (.timeoutError timeoutMs) else invocation.settled

/-- What an attempt awaits: a timeout of zero is none. -/
def awaited (opts : RetryOptions) (invocation : Invocation Reason Value) :
    Except (Thrown Reason) Value :=
  match opts.timeoutMs with
  | none => invocation.settled
  | some timeoutMs =>
      if timeoutMs = .finite 0 then invocation.settled else withTimeout invocation timeoutMs

inductive Event where
  | invoke
  | wait (ms : JsNumber)
  deriving DecidableEq

/-- A timer takes a delay that is not a number for zero. -/
def timerMs (delay : Option JsNumber) : JsNumber :=
  delay.getD (.finite 0)

/-- `opts.baseMs * 2 ** i`. -/
def scaledBase (opts : RetryOptions) (i : Nat) : Option JsNumber :=
  (JsNumber.product opts.baseMs (.powerOfTwo i)).map .overflow

/-- `Math.min(opts.maxMs, opts.baseMs * 2 ** i)`. -/
def cap (opts : RetryOptions) (i : Nat) : Option JsNumber :=
  (scaledBase opts i).map (min opts.maxMs)

/-- `Math.floor(Math.random() * cap)`. -/
def delay (opts : RetryOptions) (random : Random) (i : Nat) : Option JsNumber :=
  (cap opts i).bind fun cap => (JsNumber.product (.finite random.val) cap).map .floor

/-- The body of the loop: `i` is the counter. -/
def retryLoop (opts : RetryOptions) (invocations : Nat → Invocation Reason Value)
    (randoms : Nat → Random) : RetryLoop Event Value (Thrown Reason) where
  attempt i := ([.invoke], awaited opts (invocations i))
  giveUp i e := !e.isTransient || decide ((i : Int) = opts.attempts - 1)
  pause i := .wait (timerMs (delay opts (randoms i) i))

/-- Without an attempt `last` is thrown as it was declared. -/
def withRetry (opts : RetryOptions) (invocations : Nat → Invocation Reason Value)
    (randoms : Nat → Random) : List Event × Except (Thrown Reason) Value :=
  (retryLoop opts invocations randoms).runFrom opts.attempts.toNat 0 .undefined

/-- A success, or an error that is not transient. -/
def Ends : Except (Thrown Reason) Value → Prop
  | .ok _ => True
  | .error e => e.isTransient = false

/-- The bound of a wait in the arithmetic of the language. -/
def backoffBound (opts : RetryOptions) (i : Nat) : JsNumber :=
  min opts.maxMs (timerMs (scaledBase opts i))

/-- The calls with the waits between them. -/
def callsAndWaits (waitMs : Nat → JsNumber) (waits : Nat) : List Event :=
  ((List.range waits).flatMap fun k => [.invoke, .wait (waitMs k)]) ++ [.invoke]

/-! ## Waits -/

section Waits

variable {opts : RetryOptions}

/-- Where nothing overflows the bound is the one of exact arithmetic. -/
theorem backoffBound_of_lt {base : ℚ} {i : Nat} (isBase : opts.baseMs = .finite base)
    (nonneg : 0 ≤ base) (exponentSmall : i < 1024) (small : base * 2 ^ i < 2 ^ 1024) :
    backoffBound opts i = min opts.maxMs (.finite (base * 2 ^ i)) := by
  have powerNonneg : (0 : ℚ) ≤ 2 ^ i := pow_nonneg two_pos.le _
  have powerSmall : (2 : ℚ) ^ i < 2 ^ 1024 := pow_lt_pow_right₀ one_lt_two exponentSmall
  have isScaled : scaledBase opts i = some (.finite (base * 2 ^ i)) := by
    rw [scaledBase, isBase, JsNumber.powerOfTwo, JsNumber.overflow_of_lt powerNonneg powerSmall,
      JsNumber.product, Option.map_some,
      JsNumber.overflow_of_lt (mul_nonneg nonneg powerNonneg) small]
  rw [backoffBound, isScaled]
  rfl

theorem scaledBase_nonneg (baseNonneg : .finite 0 ≤ opts.baseMs) {i : Nat} {scaled : JsNumber}
    (isScaled : scaledBase opts i = some scaled) : .finite 0 ≤ scaled := by
  obtain ⟨unrounded, isProduct, rfl⟩ := Option.map_eq_some_iff.mp isScaled
  exact JsNumber.overflow_nonneg
    (JsNumber.product_nonneg baseNonneg (JsNumber.powerOfTwo_nonneg i) isProduct)

theorem wait_le_backoffBound (baseNonneg : .finite 0 ≤ opts.baseMs)
    (maxNonneg : .finite 0 ≤ opts.maxMs) (random : Random) (i : Nat) :
    timerMs (delay opts random i) ≤ backoffBound opts i := by
  rw [delay, cap, backoffBound]
  cases isScaled : scaledBase opts i with
  | none => exact le_min maxNonneg (le_refl _)
  | some scaled =>
      have capNonneg : .finite 0 ≤ min opts.maxMs scaled :=
        le_min maxNonneg (scaledBase_nonneg baseNonneg isScaled)
      rw [Option.map_some, Option.bind_some]
      cases isPart : JsNumber.product (.finite random.val) (min opts.maxMs scaled) with
      | none => exact capNonneg
      | some part =>
          calc part.floor
              _ ≤ part := JsNumber.floor_le part
              _ ≤ min opts.maxMs scaled := JsNumber.product_le random.property.2.le capNonneg isPart

end Waits

/-! ## Calls -/

section Calls

variable {opts : RetryOptions} {invocations : Nat → Invocation Reason Value}
  {randoms : Nat → Random}

theorem stops_iff (i : Nat) :
    (retryLoop opts invocations randoms).Stops i ↔
      Ends (awaited opts (invocations i)) ∨ (i : Int) = opts.attempts - 1 := by
  cases isOutcome : awaited opts (invocations i) with
  | ok value => simp [RetryLoop.Stops, retryLoop, Ends, isOutcome]
  | error e => simp [RetryLoop.Stops, retryLoop, Ends, isOutcome]

theorem events_eq (count : Nat) :
    (retryLoop opts invocations randoms).events 0 count =
      callsAndWaits (fun k => timerMs (delay opts (randoms k) k)) count := by
  rw [RetryLoop.events, callsAndWaits, List.range_eq_range']
  rfl

theorem count_callsAndWaits (waitMs : Nat → JsNumber) (waits : Nat) :
    (callsAndWaits waitMs waits).count .invoke = waits + 1 := by
  simp [callsAndWaits, List.count_flatMap, Function.comp_def]

/-- The loop ends with the first call that ends it, or the last there is. -/
theorem withRetry_ends (attemptsPositive : 1 ≤ opts.attempts) :
    ∃ count : Nat, (count : Int) < opts.attempts ∧
      IsLeast {i | (retryLoop opts invocations randoms).Stops (0 + i)} count ∧
      withRetry opts invocations randoms =
        (callsAndWaits (fun k => timerMs (delay opts (randoms k) k)) count,
          awaited opts (invocations count)) := by
  have positive : 0 < opts.attempts.toNat := by omega
  have lastIndex : ((opts.attempts.toNat - 1 : Nat) : Int) = opts.attempts - 1 := by omega
  have lastStops : (retryLoop opts invocations randoms).Stops (0 + (opts.attempts.toNat - 1)) := by
    rw [Nat.zero_add, stops_iff]
    exact Or.inr lastIndex
  obtain ⟨count, inside, least, isRun⟩ :=
    RetryLoop.runFrom_of_last_stops positive lastStops .undefined
  refine ⟨count, by omega, least, ?_⟩
  rw [withRetry, isRun, events_eq, Nat.zero_add]
  rfl

/-- `withRetry` calls `fn` up to the first outcome that ends it and at most
`attempts` times, settles as the last call does, and waits within the bound
after every other one. -/
theorem withRetry_calls_and_waits (invocations : Nat → Invocation Reason Value)
    (randoms : Nat → Random) (attemptsPositive : 1 ≤ opts.attempts)
    (baseNonneg : .finite 0 ≤ opts.baseMs) (maxNonneg : .finite 0 ≤ opts.maxMs) :
    ∃ calls : Nat, 1 ≤ calls ∧
      (∀ first, IsLeast {i | Ends (awaited opts (invocations i))} first →
        (calls : Int) = min opts.attempts (first + 1)) ∧
      ((∀ i, ¬ Ends (awaited opts (invocations i))) → (calls : Int) = opts.attempts) ∧
      (withRetry opts invocations randoms).1.count .invoke = calls ∧
      (withRetry opts invocations randoms).2 = awaited opts (invocations (calls - 1)) ∧
      ∃ waitMs, (withRetry opts invocations randoms).1 = callsAndWaits waitMs (calls - 1) ∧
        ∀ k, waitMs k ≤ backoffBound opts k := by
  obtain ⟨count, inside, least, isRun⟩ :=
    @withRetry_ends _ _ opts invocations randoms attemptsPositive
  have stops : Ends (awaited opts (invocations count)) ∨ (count : Int) = opts.attempts - 1 := by
    rw [← stops_iff, ← Nat.zero_add count]
    exact least.1
  have earliest : ∀ i : Nat, Ends (awaited opts (invocations i)) → count ≤ i := by
    intro i ends
    refine least.2 ?_
    show (retryLoop opts invocations randoms).Stops (0 + i)
    rw [Nat.zero_add, stops_iff]
    exact Or.inl ends
  rw [isRun]
  refine ⟨count + 1, Nat.le_add_left _ _, ?_, ?_, count_callsAndWaits _ _, rfl, _, rfl, ?_⟩
  · intro first isFirst
    have notLater : count ≤ first := earliest first isFirst.1
    rcases stops with ends | isLast
    · have notEarlier : first ≤ count := isFirst.2 ends
      omega
    · omega
  · intro never
    rcases stops with ends | isLast
    · exact absurd ends (never count)
    · omega
  · intro k
    exact wait_le_backoffBound baseNonneg maxNonneg (randoms k) k

def timedOptions : RetryOptions :=
  { defaultOptions with timeoutMs := some (.finite 50) }

/-- The first answer comes after the timer. -/
def lateThenInTime : Nat → Invocation String Nat
  | 0 => ⟨.ok 6, true⟩
  | _ + 1 => ⟨.ok 7, false⟩

theorem withRetry_second_call_in_time :
    (withRetry timedOptions lateThenInTime fun _ => ⟨0, by decide⟩).1.count .invoke = 2 := by
  obtain ⟨calls, _positive, isFirst, _never, counted, _settles⟩ :=
    @withRetry_calls_and_waits _ _ timedOptions lateThenInTime (fun _ => ⟨0, by decide⟩)
      (by decide) (by decide) (by decide)
  have least : IsLeast {i | Ends (awaited timedOptions (lateThenInTime i))} 1 := by
    constructor
    · trivial
    · intro i ends
      cases i with
      | zero => cases ends
      | succ i => exact Nat.le_add_left 1 i
  have twice : (calls : Int) = min 3 ((1 : Nat) + 1) := isFirst 1 least
  omega

end Calls

end PlatformArchitecture.PlatformSdk.Retry
