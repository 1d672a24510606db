import PlatformArchitecture.Services.AiGatewayTraces

/-!
# Attempts that the AI gateway reports

How often each provider is asked is bounded, and the fallback is asked only
after the primary has failed every time.  The count of the failed attempts is
lost on the way, so an event after a failure of the primary reports too few.
-/

namespace PlatformArchitecture.Services

open PlatformArchitecture.Foundations

variable {options : AIGatewayOptions} {entries : List GatewayEntry}

/-- Before every call to the fallback, the primary has failed every time. -/
def FallbackAfterFailures (options : AIGatewayOptions) (entries : List GatewayEntry) : Prop :=
  ∀ before entry after, entries = before ++ entry :: after → isCallTo .fallback entry = true →
    (tally before).calls .primary = options.retries + 1 ∧
      (tally before).failures .primary = options.retries + 1

/-- What the gateway's telemetry and its calls promise of each request. -/
structure AttemptsReported (options : AIGatewayOptions) (entries : List GatewayEntry) : Prop where
  reported : ∀ event ∈ (tally entries).events, event.name ≠ .fallback →
    event.attempts = (tally entries).calls .primary + (tally entries).calls .fallback
  primaryBound : (tally entries).calls .primary ≤ options.retries + 1
  fallbackBound : (tally entries).calls .fallback ≤ options.retries + 1
  afterFailures : FallbackAfterFailures options entries

/-- The primary failed every time, and then there is no fallback, or it answered
and its response was let through. -/
def HidesAttempts (options : AIGatewayOptions) (entries : List GatewayEntry) : Prop :=
  options.telemetry = true ∧ (tally entries).failures .primary = options.retries + 1 ∧
    (options.fallback = none ∨
      ∃ answer ∈ (tally entries).answers, options.Accepts answer.2 entries)

/-! ## Calls to the fallback -/

theorem not_isCallTo_of_calls {role : ProviderRole} {entry : GatewayEntry}
    (uncalled : (tally entries).calls role = 0) (member : entry ∈ entries) :
    ¬ isCallTo role entry = true :=
  List.countP_eq_zero.mp uncalled entry member

theorem fallbackAfterFailures_of_uncalled (uncalled : (tally entries).calls .fallback = 0) :
    FallbackAfterFailures options entries := by
  intro before entry after isEntries isCall
  have member : entry ∈ entries := by simp [isEntries]
  exact absurd isCall (not_isCallTo_of_calls uncalled member)

theorem fallbackAfterFailures_append {asked others : List GatewayEntry}
    (uncalled : (tally asked).calls .fallback = 0)
    (isAsked : (tally asked).calls .primary = options.retries + 1 ∧
      (tally asked).failures .primary = options.retries + 1)
    (noPrimary : (tally others).calls .primary = 0 ∧ (tally others).failures .primary = 0) :
    FallbackAfterFailures options (asked ++ others) := by
  intro before entry after isEntries isCall
  rcases List.append_eq_append_iff.mp isEntries with
    ⟨between, isBefore, isOthers⟩ | ⟨rest, isAskedList, isRest⟩
  · rw [isOthers, tally_append] at noPrimary
    obtain ⟨noCalls, noFailures⟩ := noPrimary
    have betweenNone : (tally between).calls .primary = 0 ∧
        (tally between).failures .primary = 0 :=
      ⟨Nat.eq_zero_of_add_eq_zero_right noCalls, Nat.eq_zero_of_add_eq_zero_right noFailures⟩
    rw [isBefore, tally_append]
    constructor
    · show (tally asked).calls .primary + (tally between).calls .primary = _
      rw [isAsked.1, betweenNone.1]
    · show (tally asked).failures .primary + (tally between).failures .primary = _
      rw [isAsked.2, betweenNone.2]
  · cases rest with
    | nil =>
        rw [List.append_nil] at isAskedList
        rw [← isAskedList]
        exact isAsked
    | cons first following =>
        obtain ⟨rfl, -⟩ := List.cons.inj isRest
        have member : entry ∈ asked := by simp [isAskedList]
        exact absurd isCall (not_isCallTo_of_calls uncalled member)

/-! ## The ways a request goes -/

/-- A request in which the primary answers, or no provider is asked. -/
theorem attemptsReported_of_answer {failed : Nat} (within : failed ≤ options.retries)
    {calls : Nat} (few : calls ≤ failed + 1)
    (isCalls : (tally entries).calls = only .primary calls)
    (isFailures : (tally entries).failures = only .primary failed)
    (attempts : ∀ event ∈ (tally entries).events, event.attempts = calls) :
    AttemptsReported options entries ∧ ¬ HidesAttempts options entries := by
  have onPrimary : (tally entries).calls .primary = calls := by rw [isCalls]; rfl
  have onFallback : (tally entries).calls .fallback = 0 := by rw [isCalls]; rfl
  have primaryFailed : (tally entries).failures .primary = failed := by rw [isFailures]; rfl
  refine ⟨⟨?_, by omega, by omega, fallbackAfterFailures_of_uncalled onFallback⟩, ?_⟩
  · intro event member _named
    rw [attempts event member, onPrimary, onFallback, Nat.add_zero]
  · rintro ⟨-, exhausted, -⟩
    omega

/-- What the tally of a request is after every failure of the primary. -/
structure AfterFailures (options : AIGatewayOptions) (first others : List GatewayEntry) : Prop where
  asked : tally first =
    { Tally.none with
      calls := only .primary (options.retries + 1)
      failures := only .primary (options.retries + 1) }
  unasked : (tally others).calls .primary = 0 ∧ (tally others).failures .primary = 0
  within : (tally others).calls .fallback ≤ options.retries + 1

theorem AfterFailures.calls {first others : List GatewayEntry}
    (after : AfterFailures options first others) :
    (tally (first ++ others)).calls .primary = options.retries + 1 ∧
      (tally (first ++ others)).calls .fallback = (tally others).calls .fallback ∧
      (tally (first ++ others)).failures .primary = options.retries + 1 ∧
      (tally (first ++ others)).events = (tally others).events := by
  rw [tally_append, after.asked]
  obtain ⟨noCalls, noFailures⟩ := after.unasked
  simp [Tally.plus, Tally.none, only, noCalls, noFailures]

/-- After the primary's failures the rest of what is promised holds, and the
events are right just when none of them is about the whole request. -/
theorem AfterFailures.countsReported_iff {first others : List GatewayEntry}
    (after : AfterFailures options first others)
    (few : ∀ event ∈ (tally others).events, event.attempts ≤ (tally others).calls .fallback) :
    AttemptsReported options (first ++ others) ↔
      ∀ event ∈ (tally others).events, event.name = .fallback := by
  obtain ⟨onPrimary, onFallback, -, sameEvents⟩ := after.calls
  have firstUncalled : (tally first).calls .fallback = 0 := by
    rw [after.asked]
    rfl
  have firstAsked : (tally first).calls .primary = options.retries + 1 ∧
      (tally first).failures .primary = options.retries + 1 := by
    rw [after.asked]
    exact ⟨rfl, rfl⟩
  constructor
  · intro promised event member
    by_contra whole
    have counted := promised.reported event (by rw [sameEvents]; exact member) whole
    have fewer := few event member
    omega
  · intro partly
    refine ⟨?_, by omega, by rw [onFallback]; exact after.within,
      fallbackAfterFailures_append firstUncalled firstAsked after.unasked⟩
    intro event member whole
    rw [sameEvents] at member
    exact absurd (partly event member) whole

theorem mem_sent {event found : TelemetryEvent} :
    found ∈ options.sent event ↔ options.telemetry = true ∧ found = event := by
  unfold AIGatewayOptions.sent
  by_cases sends : options.telemetry = true
  · simp [sends]
  · simp [sends]

/-- The checks of a response ask no provider, and the event they send has the
attempts they were given. -/
theorem deliver_events {request : AIModelRequest} {result : AIModelResponse} {attempts : Nat}
    {ended : Except GatewayError AIModelResponse}
    (trace : Program.Trace (options.deliver request result attempts) entries ended) :
    (tally entries).calls = (fun _ => 0) ∧ (tally entries).failures = (fun _ => 0) ∧
      (tally entries).answers = [] ∧ ∀ event, event ∈ (tally entries).events ↔
        options.Accepts result entries ∧ options.telemetry = true ∧
          event = AIGatewayOptions.requestEvent request result attempts := by
  rcases trace_deliver trace with ⟨accepts, isTally⟩ | ⟨refuses, refusals, isTally⟩
  · refine ⟨by rw [isTally]; rfl, by rw [isTally]; rfl, by rw [isTally]; rfl, ?_⟩
    intro event
    rw [isTally]
    simp [mem_sent, accepts]
  · refine ⟨by rw [isTally]; rfl, by rw [isTally]; rfl, by rw [isTally]; rfl, ?_⟩
    intro event
    rw [isTally]
    simp [Tally.none, refuses]

/-- With a fallback, the failures are hidden by a response that is let
through. -/
theorem hidesAttempts_iff_of_answers
    (exhausted : (tally entries).failures .primary = options.retries + 1)
    (hasFallback : options.fallback ≠ none) :
    HidesAttempts options entries ↔
      options.telemetry = true ∧
        ∃ answer ∈ (tally entries).answers, options.Accepts answer.2 entries := by
  constructor
  · rintro ⟨sends, -, isNone | answered⟩
    · exact absurd isNone hasFallback
    · exact ⟨sends, answered⟩
  · rintro ⟨sends, answered⟩
    exact ⟨sends, exhausted, .inr answered⟩

section Failed

variable {first others : List GatewayEntry} {request : AIModelRequest} {message : String}

/-- The event of a failure has no attempts. -/
theorem few_of_sent {name : TelemetryName}
    (isEvents : (tally others).events =
      options.sent (AIGatewayOptions.failureEvent name request 0 message)) :
    ∀ event ∈ (tally others).events, event.attempts ≤ (tally others).calls .fallback := by
  intro event member
  rw [isEvents] at member
  rw [(mem_sent.mp member).2]
  exact Nat.zero_le _

/-- Without a fallback the event of the failure is about the whole request. -/
theorem AfterFailures.reported_iff_of_noFallback (after : AfterFailures options first others)
    (noFallback : options.fallback = none)
    (isEvents : (tally others).events =
      options.sent (AIGatewayOptions.failureEvent .error request 0 message)) :
    AttemptsReported options (first ++ others) ↔ ¬ HidesAttempts options (first ++ others) := by
  rw [after.countsReported_iff (few_of_sent isEvents), isEvents]
  constructor
  · rintro partly ⟨sends, -⟩
    cases partly _ (mem_sent.mpr ⟨sends, rfl⟩)
  · intro shown event member
    exact absurd ⟨(mem_sent.mp member).1, after.calls.2.2.1, .inl noFallback⟩ shown

/-- When the fallback fails too, only the event of its turn is sent. -/
theorem AfterFailures.reported_iff_of_failed (after : AfterFailures options first others)
    (hasFallback : options.fallback ≠ none) (unanswered : (tally (first ++ others)).answers = [])
    (isEvents : (tally others).events =
      options.sent (AIGatewayOptions.failureEvent .fallback request 0 message)) :
    AttemptsReported options (first ++ others) ↔ ¬ HidesAttempts options (first ++ others) := by
  rw [after.countsReported_iff (few_of_sent isEvents),
    hidesAttempts_iff_of_answers after.calls.2.2.1 hasFallback, unanswered, isEvents]
  refine iff_of_true ?_ (by simp)
  intro event member
  rw [(mem_sent.mp member).2]
  rfl

/-- When the fallback answers, its event is sent if the response is let
through, and has the attempts of the fallback alone. -/
theorem AfterFailures.reported_iff_of_answered {delivering : List GatewayEntry}
    {result : AIModelResponse} {failed : Nat} {ended : Except GatewayError AIModelResponse}
    (isFirst : tally first =
      { Tally.none with
        calls := only .primary (options.retries + 1)
        failures := only .primary (options.retries + 1) })
    (hasFallback : options.fallback ≠ none) (within : failed ≤ options.retries)
    (isOthers : tally others =
      { Tally.none with
        answers := [(request, result)]
        events := options.sent (AIGatewayOptions.failureEvent .fallback request 0 message)
        calls := only .fallback (failed + 1)
        failures := only .fallback failed })
    (delivered : Program.Trace (options.deliver request result (failed + 1)) delivering ended) :
    AttemptsReported options (first ++ (others ++ delivering)) ↔
      ¬ HidesAttempts options (first ++ (others ++ delivering)) := by
  obtain ⟨noCalls, noFailures, noAnswer, isEvent⟩ := deliver_events delivered
  have isRest : tally (others ++ delivering) = (tally others).plus (tally delivering) :=
    tally_append others delivering
  have after : AfterFailures options first (others ++ delivering) := by
    refine ⟨isFirst, ?_, ?_⟩
    · rw [isRest, isOthers]
      simp [Tally.plus, only, noCalls, noFailures]
    · rw [isRest, isOthers]
      simp [Tally.plus, only, noCalls, within]
  have isEventOfRest : ∀ event, event ∈ (tally (others ++ delivering)).events ↔
      (options.telemetry = true ∧
          event = AIGatewayOptions.failureEvent .fallback request 0 message) ∨
        event ∈ (tally delivering).events := by
    intro event
    rw [isRest, isOthers]
    simp [Tally.plus, mem_sent]
  have few : ∀ event ∈ (tally (others ++ delivering)).events,
      event.attempts ≤ (tally (others ++ delivering)).calls .fallback := by
    intro event member
    rw [isRest, isOthers]
    rcases (isEventOfRest event).mp member with ⟨-, rfl⟩ | sent
    · exact Nat.zero_le _
    · rw [((isEvent event).mp sent).2.2]
      simp [Tally.plus, only, noCalls, AIGatewayOptions.requestEvent]
  have isAnswer : (tally (first ++ (others ++ delivering))).answers = [(request, result)] := by
    rw [tally_append, isFirst, isRest, isOthers]
    simp [Tally.plus, Tally.none, noAnswer]
  have sameRefusals : (tally (first ++ (others ++ delivering))).refusals =
      (tally delivering).refusals := by
    rw [tally_append, isFirst, isRest, isOthers]
    simp [Tally.plus, Tally.none]
  rw [after.countsReported_iff few, hidesAttempts_iff_of_answers after.calls.2.2.1 hasFallback,
    isAnswer]
  simp only [List.mem_singleton, exists_eq_left]
  rw [AIGatewayOptions.accepts_congr sameRefusals]
  constructor
  · rintro partly ⟨sends, accepts⟩
    cases partly _ ((isEventOfRest _).mpr (.inr ((isEvent _).mpr ⟨accepts, sends, rfl⟩)))
  · intro shown event member
    rcases (isEventOfRest event).mp member with ⟨-, rfl⟩ | sent
    · rfl
    · obtain ⟨accepts, sends, -⟩ := (isEvent event).mp sent
      exact absurd ⟨sends, accepts⟩ shown

end Failed

/-- A response of the primary is reported with its attempts. -/
theorem attemptsReported_of_delivered {asked delivering : List GatewayEntry}
    {request : AIModelRequest} {result : AIModelResponse} {failed : Nat}
    {ended : Except GatewayError AIModelResponse} (within : failed ≤ options.retries)
    (isAsked : tally asked =
      { Tally.none with
        answers := [(request, result)]
        calls := only .primary (failed + 1)
        failures := only .primary failed })
    (delivered : Program.Trace (options.deliver request result (failed + 1)) delivering ended) :
    AttemptsReported options (asked ++ delivering) ∧
      ¬ HidesAttempts options (asked ++ delivering) := by
  obtain ⟨noCalls, noFailures, -, isEvent⟩ := deliver_events delivered
  apply attemptsReported_of_answer within (le_refl (failed + 1))
  · rw [tally_append, isAsked]
    simp [Tally.plus, noCalls]
  · rw [tally_append, isAsked]
    simp [Tally.plus, noFailures]
  · intro event member
    rw [tally_append, isAsked] at member
    have sent : event ∈ (tally delivering).events := by
      simpa [Tally.plus, Tally.none] using member
    rw [((isEvent event).mp sent).2.2]
    rfl

/-- The attempts of a request are reported just when they are not hidden by a
failure of the primary. -/
theorem attemptsReported_iff (handled : HandledRequest options) :
    AttemptsReported options handled.entries ↔ ¬ HidesAttempts options handled.entries := by
  obtain ⟨windowKey, request, entries, ended, trace⟩ := handled
  dsimp only
  rcases Program.trace_bind_iff.mp trace with
    ⟨error, refused, rfl⟩ | ⟨_admitted, admission, asked, rfl, admitted, goesOn⟩
  · -- no provider is asked
    have isTally := tally_of_checks (tally_of_preflight refused)
    have outcome := @attemptsReported_of_answer options entries 0 (Nat.zero_le _) 0 (Nat.zero_le _)
      (by rw [isTally, only_zero]; rfl) (by rw [isTally, only_zero]; rfl)
      (by rw [isTally]; exact fun event none => nomatch none)
    exact iff_of_true outcome.1 outcome.2
  have isAdmission := tally_of_checks (tally_of_preflight admitted)
  have admits : ∀ first, tally (admission ++ first) = tally first := by
    intro first
    rw [tally_append, isAdmission, Tally.none_plus]
  rcases Program.trace_bind_iff.mp goesOn with
    ⟨error, failed, rfl⟩ | ⟨⟨result, attempts⟩, responding, delivering, rfl, responded, delivered⟩
  · rcases tally_respond failed with
      ⟨result, count, isAnswer, -⟩ | ⟨first, others, message, rfl, isFirst, whatFollows⟩
    · cases isAnswer
    rw [← List.append_assoc]
    rcases whatFollows with
      ⟨noFallback, -, isOthers⟩ |
        ⟨hasFallback, ⟨-, count, within, isOthers⟩ | ⟨result, count, isAnswer, -⟩⟩
    · have after : AfterFailures options (admission ++ first) others :=
        ⟨(admits first).trans isFirst, by rw [isOthers]; exact ⟨rfl, rfl⟩,
          by rw [isOthers]; exact Nat.zero_le _⟩
      exact after.reported_iff_of_noFallback noFallback (by rw [isOthers])
    · have after : AfterFailures options (admission ++ first) others :=
        ⟨(admits first).trans isFirst, by rw [isOthers]; exact ⟨rfl, rfl⟩,
          by rw [isOthers]; exact within⟩
      have unanswered : (tally (admission ++ first ++ others)).answers = [] := by
        rw [tally_append, admits first, isFirst, isOthers]
        rfl
      exact after.reported_iff_of_failed hasFallback unanswered (by rw [isOthers])
    · cases isAnswer
  · rcases tally_respond responded with
      ⟨found, failed, isFound, within, isResponding⟩ |
        ⟨first, others, message, rfl, isFirst, whatFollows⟩
    · obtain ⟨rfl, rfl⟩ := Prod.mk.inj (Except.ok.inj isFound)
      rw [← List.append_assoc]
      have outcome := attemptsReported_of_delivered within ((admits responding).trans isResponding)
        delivered
      exact iff_of_true outcome.1 outcome.2
    · rcases whatFollows with
        ⟨-, ⟨error, isError⟩, -⟩ |
          ⟨hasFallback, ⟨⟨error, isError⟩, -⟩ | ⟨found, failed, isFound, within, isOthers⟩⟩
      · cases isError
      · cases isError
      obtain ⟨rfl, rfl⟩ := Prod.mk.inj (Except.ok.inj isFound)
      rw [List.append_assoc first, ← List.append_assoc]
      exact AfterFailures.reported_iff_of_answered ((admits first).trans isFirst) hasFallback
        within isOthers delivered

section Example

/-- A primary and a fallback without retries, and telemetry. -/
private def routedOptions : AIGatewayOptions where
  primary := "bedrock"
  fallback := some "openai"
  route _ := none
  maxInputChars := none
  maxOutputChars := none
  maxOutputTokens := none
  tenantTokenQuota := none
  maxRetries := some 0
  authorize := false
  validateInput := false
  validateOutput := false
  usage := false
  telemetry := true

private def routedRequest : AIModelRequest where
  tenantId := "t1"
  workspaceId := none
  input := some "question"
  maxTokens := none
  correlationId := "c1"

/-- Surroundings in which the primary is down. -/
private def primaryDown (_before : List GatewayEntry) :
    (call : GatewayCall) → Except GatewayError call.Reply
  | .authorize _ _ => .ok true
  | .getUsedTokens _ _ => .ok 0
  | .generate .primary _ _ => .error (.error "down")
  | .generate .fallback _ _ => .ok ⟨"answer", "m", 2, 1, "openai"⟩
  | .validateInput _ | .validateOutput _ | .addUsage _ | .record _ => .ok ()

private def fallenBack : HandledRequest routedOptions where
  windowKey := "2026-01"
  request := routedRequest
  entries := ((routedOptions.generate "2026-01" routedRequest).follow primaryDown []).1
  ended := ((routedOptions.generate "2026-01" routedRequest).follow primaryDown []).2
  trace := Program.trace_follow _ _ _

/-- Two calls are made and one attempt is reported. -/
theorem attemptsReported_not_of_fallback :
    (tally fallenBack.entries).calls .primary + (tally fallenBack.entries).calls .fallback = 2 ∧
      ((tally fallenBack.entries).events.filter fun event => event.name ≠ .fallback).map
        (fun event => (event.name, event.attempts)) = [(.request, 1)] ∧
      ¬ AttemptsReported routedOptions fallenBack.entries := by
  refine ⟨by decide +kernel, by decide +kernel, ?_⟩
  intro promised
  have counted := promised.reported
    (AIGatewayOptions.requestEvent routedRequest ⟨"answer", "m", 2, 1, "openai"⟩ 1)
    (by decide +kernel) (by decide)
  revert counted
  decide +kernel

end Example

end PlatformArchitecture.Services
