import PlatformArchitecture.Services.AiGateway

/-!
# What a handled request holds

The calls of a handled request, counted and collected from its trace: the
responses the gateway received, the usage that was added, the events that were
recorded, and the calls to each provider.  Each stage of the program says what
it contributes.
-/

namespace PlatformArchitecture.Services

open PlatformArchitecture.Foundations

/-! ## Collections -/

/-- A response that the gateway has received, with its request. -/
def answerOf : GatewayEntry → Option (AIModelRequest × AIModelResponse)
  | ⟨.generate _ _ request, .ok result⟩ => some (request, result)
  | _ => none

/-- The usage that the store has taken; a call that fails has recorded
nothing. -/
def addedUsage : GatewayEntry → Option UsageRecord
  | ⟨.addUsage usage, .ok _⟩ => some usage
  | _ => none

/-- The event that is sent to telemetry. -/
def sentEvent : GatewayEntry → Option TelemetryEvent
  | ⟨.record event, _⟩ => some event
  | _ => none

def isCallTo (role : ProviderRole) : GatewayEntry → Bool
  | ⟨.generate asked _ _, _⟩ => asked = role
  | _ => false

def isFailureOf (role : ProviderRole) : GatewayEntry → Bool
  | ⟨.generate asked _ _, .error _⟩ => asked = role
  | _ => false

/-- A response is refused by the validator, or its usage by the store. -/
def isRefusal : GatewayEntry → Bool
  | ⟨.validateOutput _, .error _⟩ | ⟨.addUsage _, .error _⟩ => true
  | _ => false

/-- What the entries of a trace amount to. -/
structure Tally where
  answers : List (AIModelRequest × AIModelResponse)
  added : List UsageRecord
  events : List TelemetryEvent
  calls : ProviderRole → Nat
  failures : ProviderRole → Nat
  refusals : Nat

def tally (entries : List GatewayEntry) : Tally where
  answers := entries.filterMap answerOf
  added := entries.filterMap addedUsage
  events := entries.filterMap sentEvent
  calls role := entries.countP (isCallTo role)
  failures role := entries.countP (isFailureOf role)
  refusals := entries.countP isRefusal

/-- A count of one role alone. -/
def only (role : ProviderRole) (count : Nat) (asked : ProviderRole) : Nat :=
  if asked = role then count else 0

theorem only_zero (role : ProviderRole) : only role 0 = fun _ => 0 := by
  funext asked
  exact ite_self 0

namespace Tally

def none : Tally :=
  ⟨[], [], [], fun _ => 0, fun _ => 0, 0⟩

def plus (first second : Tally) : Tally where
  answers := first.answers ++ second.answers
  added := first.added ++ second.added
  events := first.events ++ second.events
  calls role := first.calls role + second.calls role
  failures role := first.failures role + second.failures role
  refusals := first.refusals + second.refusals

theorem none_plus (amount : Tally) : none.plus amount = amount := by
  simp [plus, none]

end Tally

theorem tally_append (first second : List GatewayEntry) :
    tally (first ++ second) = (tally first).plus (tally second) := by
  unfold tally Tally.plus
  simp only [List.filterMap_append, List.countP_append]

theorem tally_cons (entry : GatewayEntry) (rest : List GatewayEntry) :
    tally (entry :: rest) = (tally [entry]).plus (tally rest) :=
  tally_append [entry] rest

/-- Calls that are about no provider, no usage and no event. -/
def GatewayCall.IsCheck : GatewayCall → Prop
  | .authorize _ _ | .validateInput _ | .getUsedTokens _ _ => True
  | _ => False

theorem tally_of_checks {entries : List GatewayEntry}
    (checks : ∀ entry ∈ entries, entry.op.IsCheck) : tally entries = Tally.none := by
  induction entries with
  | nil => rfl
  | cons entry rest inductionHypothesis =>
      have first : tally [entry] = Tally.none := by
        have isCheck := checks entry List.mem_cons_self
        obtain ⟨call, outcome⟩ := entry
        cases call with
        | authorize | validateInput | getUsedTokens => rfl
        | generate | validateOutput | addUsage | record => exact isCheck.elim
      rw [tally_cons, first, Tally.none_plus]
      exact inductionHypothesis fun later member => checks later (List.mem_cons_of_mem entry member)

theorem mem_answers_iff {entries : List GatewayEntry} {request : AIModelRequest}
    {result : AIModelResponse} :
    (request, result) ∈ (tally entries).answers ↔
      ∃ role provider, ⟨.generate role provider request, .ok result⟩ ∈ entries := by
  constructor
  · intro member
    obtain ⟨⟨call, outcome⟩, isEntry, isAnswer⟩ := List.mem_filterMap.mp member
    unfold answerOf at isAnswer
    split at isAnswer
    · next role provider asked given isCall =>
      obtain ⟨rfl, rfl⟩ := Prod.mk.inj (Option.some.inj isAnswer)
      rw [isCall] at isEntry
      exact ⟨role, provider, isEntry⟩
    · cases isAnswer
  · rintro ⟨role, provider, member⟩
    exact List.mem_filterMap.mpr ⟨_, member, rfl⟩

/-! ## The stages -/

section Stages

variable {options : AIGatewayOptions} {entries : List GatewayEntry}

/-- A check in front of a program ends it, or lets it go on. -/
theorem trace_failIf_bind {Result : Type} {condition : Prop} [Decidable condition]
    {message : String} {rest : PUnit → GatewayProgram Result} {ended : Except GatewayError Result}
    (trace : Program.Trace (failIf condition message >>= rest) entries ended) :
    (condition ∧ entries = [] ∧ ended = .error (.error message)) ∨
      ¬ condition ∧ Program.Trace (rest ⟨⟩) entries ended := by
  rcases Program.trace_bind_iff.mp trace with
    ⟨error, failed, rfl⟩ | ⟨passed, first, others, rfl, isFirst, goesOn⟩
  · obtain ⟨isEmpty, isError⟩ := Program.trace_check_iff.mp failed
    by_cases holds : condition
    · rw [throwIf_of_pos holds] at isError
      exact .inl ⟨holds, isEmpty, congrArg Except.error (Except.error.inj isError)⟩
    · rw [throwIf_of_not holds] at isError
      cases isError
  · obtain ⟨rfl, isOk⟩ := Program.trace_check_iff.mp isFirst
    exact .inr ⟨throwIf_eq_ok.mp isOk.symm, goesOn⟩

/-- The checks of a request ask no provider. -/
theorem tally_of_preflight {windowKey : String} {request : AIModelRequest}
    {ended : Except GatewayError Unit}
    (trace : Program.Trace (options.preflight windowKey request) entries ended) :
    ∀ entry ∈ entries, entry.op.IsCheck := by
  apply @Program.Trace.kind _ _ _ _ _ GatewayCall.IsCheck _ _ trace
  have checks : ∀ (condition : Prop) [Decidable condition] (message : String),
      Program.Issues GatewayCall.IsCheck (failIf condition message) :=
    fun condition _ message => Program.issues_check _
  apply Program.issues_bind _ (checks _ _)
  intro _context
  apply Program.issues_bind _ (checks _ _)
  intro _input
  apply Program.issues_bind _ (checks _ _)
  intro _tokens
  apply Program.issues_bind
  · intro _access
    apply Program.issues_bind
    · intro _validated
      unfold AIGatewayOptions.checkQuota
      split
      · exact Program.issues_bind (fun _ => checks _ _) (Program.issues_call trivial)
      · trivial
    · unfold AIGatewayOptions.checkInput
      split
      · exact Program.issues_call trivial
      · trivial
  · unfold AIGatewayOptions.checkAccess
    split
    · exact Program.issues_bind (fun _ => checks _ _) (Program.issues_call trivial)
    · trivial

/-- A request that is let in has asked for the tenant's usage, where there is a
quota, and stayed below it. -/
theorem belowQuota_of_preflight {windowKey : String} {request : AIModelRequest}
    (trace : Program.Trace (options.preflight windowKey request) entries (.ok ()))
    (hasStore : options.usage = true) (hasQuota : options.tenantTokenQuota.getD 0 ≠ 0) :
    ∃ used, ⟨.getUsedTokens request.tenantId windowKey, .ok used⟩ ∈ entries ∧
      used < options.tenantTokenQuota.getD 0 := by
  rcases trace_failIf_bind trace with ⟨-, -, isError⟩ | ⟨-, named⟩
  · cases isError
  rcases trace_failIf_bind named with ⟨-, -, isError⟩ | ⟨-, fitting⟩
  · cases isError
  rcases trace_failIf_bind fitting with ⟨-, -, isError⟩ | ⟨-, bounded⟩
  · cases isError
  obtain ⟨_allowed, access, afterAccess, rfl, -, allowed⟩ := Program.trace_bind_ok bounded
  obtain ⟨_validated, input, quota, rfl, -, validated⟩ := Program.trace_bind_ok allowed
  unfold AIGatewayOptions.checkQuota at validated
  rw [if_pos ⟨hasStore, hasQuota⟩] at validated
  obtain ⟨used, asked, checked, rfl, isAsked, checking⟩ := Program.trace_bind_ok validated
  obtain rfl := Program.trace_call_iff.mp isAsked
  obtain ⟨rfl, passed⟩ := Program.trace_check_iff.mp checking
  have below := throwIf_eq_ok.mp passed.symm
  exact ⟨used, by simp, Int.not_le.mp below⟩

/-- Failed calls to one provider. -/
def FailedCalls (role : ProviderRole) (provider : String) (request : AIModelRequest)
    (entries : List GatewayEntry) : Prop :=
  ∀ entry ∈ entries, ∃ error, entry = ⟨.generate role provider request, .error error⟩

theorem tally_failedCalls {role : ProviderRole} {provider : String} {request : AIModelRequest}
    (failed : FailedCalls role provider request entries) :
    tally entries =
      { Tally.none with
        calls := only role entries.length
        failures := only role entries.length } := by
  induction entries with
  | nil =>
      unfold tally Tally.none
      congr 1 <;> (funext asked; simp [only])
  | cons entry rest inductionHypothesis =>
      obtain ⟨error, rfl⟩ := failed entry List.mem_cons_self
      rw [tally_cons, inductionHypothesis fun later member =>
        failed later (List.mem_cons_of_mem _ member)]
      unfold Tally.plus Tally.none tally
      congr 1
      · funext asked
        by_cases same : asked = role
        · simp [isCallTo, only, same, Nat.add_comm]
        · simp [isCallTo, only, same, Ne.symm same]
      · funext asked
        by_cases same : asked = role
        · simp [isFailureOf, only, same, Nat.add_comm]
        · simp [isFailureOf, only, same, Ne.symm same]

/-- A call that was answered. -/
theorem tally_answered (role : ProviderRole) (provider : String) (request : AIModelRequest)
    (result : AIModelResponse) :
    tally [⟨.generate role provider request, .ok result⟩] =
      { Tally.none with
        answers := [(request, result)]
        calls := only role 1 } := by
  unfold Tally.none tally
  congr 1
  funext asked
  by_cases same : asked = role
  · simp [isCallTo, only, same]
  · simp [isCallTo, only, same, Ne.symm same]

/-- The calls of one provider: failures, and then an answer unless every retry
is used up. -/
theorem trace_invoke {role : ProviderRole} {provider : String} {request : AIModelRequest}
    {remaining : Nat} :
    ∀ {attempt : Nat} {entries : List GatewayEntry}
      {ended : Except GatewayError (AIModelResponse × Nat)},
      Program.Trace (AIGatewayOptions.invoke role provider request remaining attempt) entries
          ended →
        (∃ failed result, entries = failed ++ [⟨.generate role provider request, .ok result⟩] ∧
          FailedCalls role provider request failed ∧ failed.length ≤ remaining ∧
          ended = .ok (result, attempt + failed.length + 1)) ∨
        ∃ error, FailedCalls role provider request entries ∧ entries.length = remaining + 1 ∧
          ended = .error error := by
  have once : ∀ {attempt : Nat} {entries : List GatewayEntry}
      {ended : Except GatewayError (AIModelResponse × Nat)},
      Program.Trace (do
          let result ← awaitGateway (.generate role provider request)
          return (result, attempt + 1)) entries ended →
        (∃ result, entries = [⟨.generate role provider request, .ok result⟩] ∧
            ended = .ok (result, attempt + 1)) ∨
          ∃ error, entries = [⟨.generate role provider request, .error error⟩] ∧
            ended = .error error := by
    intro attempt entries ended trace
    rcases Program.trace_bind_iff.mp trace with
      ⟨error, failed, rfl⟩ | ⟨result, first, others, rfl, answered, returned⟩
    · exact .inr ⟨error, Program.trace_call_iff.mp failed, rfl⟩
    · obtain ⟨rfl, rfl⟩ := Program.trace_done_iff.mp returned
      rw [List.append_nil]
      exact .inl ⟨result, Program.trace_call_iff.mp answered, rfl⟩
  induction remaining with
  | zero =>
      intro attempt entries ended trace
      rcases once trace with ⟨result, rfl, rfl⟩ | ⟨error, rfl, rfl⟩
      · exact .inl ⟨[], result, rfl, (fun _ none => nomatch none), le_refl _, rfl⟩
      · refine .inr ⟨error, ?_, rfl, rfl⟩
        intro entry member
        exact ⟨error, List.mem_singleton.mp member⟩
  | succ remaining inductionHypothesis =>
      intro attempt entries ended trace
      rcases Program.trace_orElse_iff.mp trace with
        ⟨answer, answered, rfl⟩ | ⟨error, first, others, rfl, failed, again⟩
      · rcases once answered with ⟨result, rfl, isAnswer⟩ | ⟨error, -, isError⟩
        · exact .inl ⟨[], result, rfl, (fun _ none => nomatch none), Nat.zero_le _, isAnswer⟩
        · cases isError
      · rcases once failed with ⟨result, -, isAnswer⟩ | ⟨error, rfl, -⟩
        · cases isAnswer
        · rcases inductionHypothesis again with
            ⟨later, result, rfl, areFailed, within, rfl⟩ | ⟨last, areFailed, isLength, rfl⟩
          · refine .inl ⟨⟨.generate role provider request, .error error⟩ :: later, result, rfl,
              ?_, Nat.succ_le_succ within, ?_⟩
            · exact List.forall_mem_cons.mpr ⟨⟨error, rfl⟩, areFailed⟩
            · rw [List.length_cons, Nat.add_right_comm attempt 1, Nat.add_assoc attempt]
          · refine .inr ⟨last, ?_, ?_, rfl⟩
            · exact List.forall_mem_cons.mpr ⟨⟨error, rfl⟩, areFailed⟩
            · rw [List.length_append, isLength, List.length_singleton, Nat.add_comm]

/-- The events of one `record`, where the options have telemetry. -/
def AIGatewayOptions.sent (options : AIGatewayOptions) (event : TelemetryEvent) :
    List TelemetryEvent :=
  if options.telemetry then [event] else []

theorem trace_recordEvent {event : TelemetryEvent} {ended : Except GatewayError Unit}
    (trace : Program.Trace (options.recordEvent event) entries ended) :
    tally entries =
      { Tally.none with events := options.sent (event) } := by
  unfold AIGatewayOptions.recordEvent at trace
  unfold AIGatewayOptions.sent
  split at trace
  · next sends =>
    rw [Program.trace_call_iff.mp trace, if_pos sends]
    rfl
  · next silent =>
    rw [(Program.trace_done_iff.mp trace).1, if_neg silent]
    rfl

/-- A response that the limits, the validator and the store let through. -/
structure AIGatewayOptions.Accepts (options : AIGatewayOptions) (result : AIModelResponse)
    (entries : List GatewayEntry) : Prop where
  withinChars : utf16Length result.output ≤ options.maxOutputChars.getD 200000
  withinTokens : result.outputTokens ≤ options.maxOutputTokens.getD 8192
  unrefused : (tally entries).refusals = 0

theorem trace_checkOutput {result : AIModelResponse} {ended : Except GatewayError Unit}
    (trace : Program.Trace (options.checkOutput result) entries ended) :
    (ended = .ok () ∧ tally entries = Tally.none) ∨
      (∃ error, ended = .error error) ∧ tally entries = { Tally.none with refusals := 1 } := by
  unfold AIGatewayOptions.checkOutput at trace
  split at trace
  · rw [Program.trace_call_iff.mp trace]
    cases ended with
    | ok reply => exact .inl ⟨rfl, rfl⟩
    | error error => exact .inr ⟨⟨error, rfl⟩, rfl⟩
  · obtain ⟨rfl, rfl⟩ := Program.trace_done_iff.mp trace
    exact .inl ⟨rfl, rfl⟩

theorem trace_account {request : AIModelRequest} {result : AIModelResponse}
    {ended : Except GatewayError Unit}
    (trace : Program.Trace (options.account request result) entries ended) :
    (ended = .ok () ∧ tally entries =
        { Tally.none with
          added := if options.usage then [AIGatewayOptions.usageOf request result] else [] }) ∨
      (∃ error, ended = .error error) ∧ tally entries = { Tally.none with refusals := 1 } := by
  unfold AIGatewayOptions.account at trace
  split at trace
  · next hasStore =>
    rw [Program.trace_call_iff.mp trace, if_pos hasStore]
    cases ended with
    | ok reply => exact .inl ⟨rfl, rfl⟩
    | error error => exact .inr ⟨⟨error, rfl⟩, rfl⟩
  · next noStore =>
    obtain ⟨rfl, rfl⟩ := Program.trace_done_iff.mp trace
    rw [if_neg noStore]
    exact .inl ⟨rfl, rfl⟩

/-- The checks of a response record its usage and its event, or nothing if they
do not let it through. -/
theorem trace_deliver {request : AIModelRequest} {result : AIModelResponse} {attempts : Nat}
    {ended : Except GatewayError AIModelResponse}
    (trace : Program.Trace (options.deliver request result attempts) entries ended) :
    (options.Accepts result entries ∧
      tally entries =
        { Tally.none with
          added := if options.usage then [AIGatewayOptions.usageOf request result] else []
          events := options.sent (AIGatewayOptions.requestEvent request result attempts) }) ∨
      ¬ options.Accepts result entries ∧
        ∃ refusals, tally entries = { Tally.none with refusals } := by
  rcases trace_failIf_bind trace with ⟨tooLong, rfl, -⟩ | ⟨withinChars, goesOn⟩
  · refine .inr ⟨?_, 0, rfl⟩
    intro accepts
    exact absurd tooLong (Int.not_lt.mpr accepts.withinChars)
  rcases trace_failIf_bind goesOn with ⟨tooMany, rfl, -⟩ | ⟨withinTokens, goesOn⟩
  · refine .inr ⟨?_, 0, rfl⟩
    intro accepts
    exact absurd tooMany (Int.not_lt.mpr accepts.withinTokens)
  have refused : ∀ {entries}, tally entries = { Tally.none with refusals := 1 } →
      ¬ options.Accepts result entries := by
    intro entries isTally accepts
    have unrefused := accepts.unrefused
    rw [isTally] at unrefused
    cases unrefused
  rcases Program.trace_bind_iff.mp goesOn with
    ⟨error, failed, rfl⟩ | ⟨_validated, first, others, rfl, passed, goesOn⟩
  · rcases trace_checkOutput failed with ⟨isOk, -⟩ | ⟨-, isTally⟩
    · cases isOk
    · exact .inr ⟨refused isTally, 1, isTally⟩
  rcases trace_checkOutput passed with ⟨-, isFirst⟩ | ⟨⟨error, isError⟩, -⟩
  swap
  · cases isError
  have sameTally : tally (first ++ others) = tally others := by
    rw [tally_append, isFirst, Tally.none_plus]
  rcases Program.trace_bind_iff.mp goesOn with
    ⟨error, failed, rfl⟩ | ⟨_accounted, second, events, rfl, passed, goesOn⟩
  · rcases trace_account failed with ⟨isOk, -⟩ | ⟨-, isTally⟩
    · cases isOk
    · rw [isTally] at sameTally
      exact .inr ⟨refused sameTally, 1, sameTally⟩
  rcases trace_account passed with ⟨-, isSecond⟩ | ⟨⟨error, isError⟩, -⟩
  swap
  · cases isError
  have isEvents : tally events =
      { Tally.none with
        events := options.sent (AIGatewayOptions.requestEvent request result attempts) } := by
    rcases Program.trace_bind_iff.mp goesOn with
      ⟨error, failed, rfl⟩ | ⟨_recorded, sent, nothing, rfl, passed, returned⟩
    · exact trace_recordEvent failed
    · rw [(Program.trace_done_iff.mp returned).1, List.append_nil]
      exact trace_recordEvent passed
  rw [tally_append second, isSecond, isEvents] at sameTally
  left
  refine ⟨⟨Int.not_lt.mp withinChars, Int.not_lt.mp withinTokens, ?_⟩, ?_⟩
  · rw [sameTally]
    rfl
  · rw [sameTally]
    simp [Tally.plus, Tally.none]

/-- What the calls of one provider amount to. -/
theorem tally_invoke {role : ProviderRole} {provider : String} {request : AIModelRequest}
    {remaining : Nat} {ended : Except GatewayError (AIModelResponse × Nat)}
    (trace : Program.Trace (AIGatewayOptions.invoke role provider request remaining 0)
      entries ended) :
    (∃ result failed, ended = .ok (result, failed + 1) ∧ failed ≤ remaining ∧
      tally entries =
        { Tally.none with
          answers := [(request, result)]
          calls := only role (failed + 1)
          failures := only role failed }) ∨
      (∃ error, ended = .error error) ∧
        tally entries =
          { Tally.none with
            calls := only role (remaining + 1)
            failures := only role (remaining + 1) } := by
  rcases trace_invoke trace with
    ⟨failed, result, rfl, areFailed, within, rfl⟩ | ⟨error, areFailed, isLength, rfl⟩
  · refine .inl ⟨result, failed.length, by rw [Nat.zero_add], within, ?_⟩
    rw [tally_append, tally_failedCalls areFailed, tally_answered]
    unfold Tally.plus Tally.none
    congr 1
    · funext asked
      by_cases same : asked = role
      · simp [only, same]
      · simp [only, same]
  · refine .inr ⟨⟨error, rfl⟩, ?_⟩
    rw [tally_failedCalls areFailed, isLength]

/-- What asking the providers amounts to: an answer of the primary, or all its
failures and then an error event, or the fallback. -/
theorem tally_respond {request : AIModelRequest}
    {ended : Except GatewayError (AIModelResponse × Nat)}
    (trace : Program.Trace (options.respond request) entries ended) :
    (∃ result failed, ended = .ok (result, failed + 1) ∧ failed ≤ options.retries ∧
      tally entries =
        { Tally.none with
          answers := [(request, result)]
          calls := only .primary (failed + 1)
          failures := only .primary failed }) ∨
      ∃ first others message, entries = first ++ others ∧
        tally first =
          { Tally.none with
            calls := only .primary (options.retries + 1)
            failures := only .primary (options.retries + 1) } ∧
        ((options.fallback = none ∧ (∃ error, ended = .error error) ∧
            tally others =
              { Tally.none with
                events := options.sent (AIGatewayOptions.failureEvent .error request 0 message) }) ∨
          options.fallback ≠ none ∧
            ((∃ error, ended = .error error) ∧ (∃ failed ≤ options.retries + 1,
                tally others =
                  { Tally.none with
                    events :=
                      options.sent (AIGatewayOptions.failureEvent .fallback request 0 message)
                    calls := only .fallback failed
                    failures := only .fallback failed }) ∨
              ∃ result failed, ended = .ok (result, failed + 1) ∧ failed ≤ options.retries ∧
                tally others =
                  { Tally.none with
                    answers := [(request, result)]
                    events :=
                      options.sent (AIGatewayOptions.failureEvent .fallback request 0 message)
                    calls := only .fallback (failed + 1)
                    failures := only .fallback failed })) := by
  rcases Program.trace_orElse_iff.mp trace with
    ⟨answer, answered, rfl⟩ | ⟨error, first, others, rfl, failed, handled⟩
  · rcases tally_invoke answered with asked | ⟨⟨error, isError⟩, -⟩
    · exact .inl asked
    · cases isError
  · right
    rcases tally_invoke failed with ⟨result, count, isAnswer, -⟩ | ⟨-, isFirst⟩
    · cases isAnswer
    refine ⟨first, others, ?_⟩
    cases hasFallback : options.fallback with
    | none =>
        rw [hasFallback] at handled
        refine ⟨error.message.getD "AI provider failed", rfl, isFirst, .inl ⟨rfl, ?_⟩⟩
        rcases Program.trace_bind_iff.mp handled with
          ⟨lost, unsent, rfl⟩ | ⟨_sent, event, nothing, rfl, sent, thrown⟩
        · exact ⟨⟨lost, rfl⟩, trace_recordEvent unsent⟩
        · obtain ⟨rfl, rfl⟩ := Program.trace_fail_iff.mp thrown
          rw [List.append_nil]
          exact ⟨⟨_, rfl⟩, trace_recordEvent sent⟩
    | some fallback =>
        rw [hasFallback] at handled
        refine ⟨error.message.getD "primary failed", rfl, isFirst,
          .inr ⟨Option.some_ne_none fallback, ?_⟩⟩
        rcases Program.trace_bind_iff.mp handled with
          ⟨lost, unsent, rfl⟩ | ⟨_sent, event, asked, rfl, sent, goesOn⟩
        · refine .inl ⟨⟨lost, rfl⟩, 0, Nat.zero_le _, ?_⟩
          rw [trace_recordEvent unsent, only_zero]
          rfl
        · rw [tally_append, trace_recordEvent sent]
          rcases Program.trace_orElse_iff.mp goesOn with
            ⟨answer, answered, rfl⟩ | ⟨last, calls, nothing, rfl, failedToo, thrown⟩
          · rcases tally_invoke answered with
              ⟨result, count, isAnswer, within, isAsked⟩ | ⟨⟨error, isError⟩, -⟩
            · refine .inr ⟨result, count, isAnswer, within, ?_⟩
              rw [isAsked]
              simp [Tally.plus, Tally.none]
            · cases isError
          · obtain ⟨rfl, rfl⟩ := Program.trace_fail_iff.mp thrown
            rcases tally_invoke failedToo with ⟨result, count, isAnswer, -⟩ | ⟨-, isAsked⟩
            · cases isAnswer
            · refine .inl ⟨⟨_, rfl⟩, options.retries + 1, le_refl _, ?_⟩
              rw [List.append_nil, isAsked]
              simp [Tally.plus, Tally.none]

/-- Asking the providers adds no usage, and ends with the response that was
received, if there was one. -/
theorem answers_respond {request : AIModelRequest}
    {ended : Except GatewayError (AIModelResponse × Nat)}
    (trace : Program.Trace (options.respond request) entries ended) :
    (tally entries).added = [] ∧ (tally entries).refusals = 0 ∧
      (((∃ error, ended = .error error) ∧ (tally entries).answers = []) ∨
        ∃ result attempts, ended = .ok (result, attempts) ∧
          (tally entries).answers = [(request, result)]) := by
  rcases tally_respond trace with
    ⟨result, failed, rfl, -, isTally⟩ | ⟨first, others, message, rfl, isFirst, whatFollows⟩
  · rw [isTally]
    exact ⟨rfl, rfl, .inr ⟨result, _, rfl, rfl⟩⟩
  · rw [tally_append, isFirst]
    rcases whatFollows with
      ⟨-, ⟨error, rfl⟩, isOthers⟩ |
        ⟨-, ⟨⟨error, rfl⟩, failed, -, isOthers⟩ | ⟨result, failed, rfl, -, isOthers⟩⟩
    · rw [isOthers]
      exact ⟨rfl, rfl, .inl ⟨⟨error, rfl⟩, rfl⟩⟩
    · rw [isOthers]
      exact ⟨rfl, rfl, .inl ⟨⟨error, rfl⟩, rfl⟩⟩
    · rw [isOthers]
      exact ⟨rfl, rfl, .inr ⟨result, _, rfl, rfl⟩⟩

theorem AIGatewayOptions.accepts_congr {result : AIModelResponse} {others : List GatewayEntry}
    (same : (tally entries).refusals = (tally others).refusals) :
    options.Accepts result entries ↔ options.Accepts result others := by
  constructor
  · rintro ⟨withinChars, withinTokens, unrefused⟩
    exact ⟨withinChars, withinTokens, same.symm.trans unrefused⟩
  · rintro ⟨withinChars, withinTokens, unrefused⟩
    exact ⟨withinChars, withinTokens, same.trans unrefused⟩

end Stages

/-- A request and how it was handled. -/
structure HandledRequest (options : AIGatewayOptions) where
  windowKey : String
  request : AIModelRequest
  entries : List GatewayEntry
  ended : Except GatewayError AIModelResponse
  trace : Program.Trace (options.generate windowKey request) entries ended

end PlatformArchitecture.Services
