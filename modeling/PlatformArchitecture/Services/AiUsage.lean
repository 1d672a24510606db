import PlatformArchitecture.Foundations.Run
import PlatformArchitecture.Services.AiGatewayTraces
import Mathlib.Algebra.Ring.Int.Defs

/-!
# Accounting of the AI gateway over whole runs

Requests are handled one after the other.  What the usage store holds is what
the gateway received as long as every response is let through by the output
limits, the validator and the store; a response that is not is consumed and
never added.
-/

namespace PlatformArchitecture.Services

open PlatformArchitecture.Foundations

/-- The tokens the gateway has received, and those in the usage store. -/
structure UsageAccounts where
  received : List UsageRecord
  added : List UsageRecord

def newAccounts : UsageAccounts :=
  ⟨[], []⟩

variable {options : AIGatewayOptions}

/-- The usage of the responses that the gateway has received. -/
def HandledRequest.received (handled : HandledRequest options) : List UsageRecord :=
  (tally handled.entries).answers.map fun answer =>
    AIGatewayOptions.usageOf answer.1 answer.2

def handleRequest (accounts : UsageAccounts) (handled : HandledRequest options) :
    UsageAccounts where
  received := accounts.received ++ handled.received
  added := accounts.added ++ (tally handled.entries).added

/-- Every response has been added, once and in order. -/
def UsageAccounts.Complete (accounts : UsageAccounts) : Prop :=
  accounts.added = accounts.received

/-- Every response of the request is let through. -/
def HandledRequest.AcceptsResponses (handled : HandledRequest options) : Prop :=
  ∀ role provider result,
    ⟨.generate role provider handled.request, .ok result⟩ ∈ handled.entries →
      options.Accepts result handled.entries

/-- The tokens that a list of records has for a tenant; the store knows which
records are of the current window. -/
def usedTokens (inWindow : Nat → Bool) (tenantId : String) (records : List UsageRecord) : Int :=
  ((records.zipIdx.filter fun entry => entry.1.tenantId = tenantId && inWindow entry.2).map
    fun entry => entry.1.inputTokens + entry.1.outputTokens).sum

/-- The store reports what has been added to it. -/
def HandledRequest.ReportsUsage (handled : HandledRequest options) (inWindow : Nat → Bool)
    (added : List UsageRecord) : Prop :=
  ∀ tenantId windowKey used, ⟨.getUsedTokens tenantId windowKey, .ok used⟩ ∈ handled.entries →
    used = usedTokens inWindow tenantId added

/-- A provider has been asked. -/
def HandledRequest.Admitted (handled : HandledRequest options) : Prop :=
  ∃ entry ∈ handled.entries, ∃ role, isCallTo role entry = true

/-! ## One request -/

/-- A request has no response, or one that is added just if it is let
through. -/
theorem answers_cases (handled : HandledRequest options) :
    ((tally handled.entries).answers = [] ∧ (tally handled.entries).added = []) ∨
      ∃ result, (tally handled.entries).answers = [(handled.request, result)] ∧
        ((options.Accepts result handled.entries ∧
            (tally handled.entries).added =
              if options.usage then [AIGatewayOptions.usageOf handled.request result] else []) ∨
          ¬ options.Accepts result handled.entries ∧ (tally handled.entries).added = []) := by
  obtain ⟨windowKey, request, entries, ended, trace⟩ := handled
  dsimp only
  rcases Program.trace_bind_iff.mp trace with
    ⟨error, refused, rfl⟩ | ⟨_admitted, admission, asked, rfl, admitted, goesOn⟩
  · rw [tally_of_checks (tally_of_preflight refused)]
    exact .inl ⟨rfl, rfl⟩
  rw [tally_append, tally_of_checks (tally_of_preflight admitted), Tally.none_plus]
  rcases Program.trace_bind_iff.mp goesOn with
    ⟨error, failed, rfl⟩ | ⟨⟨result, attempts⟩, responding, delivering, rfl, responded, delivered⟩
  · obtain ⟨noUsage, -, ⟨-, isEmpty⟩ | ⟨result, attempts, isAnswer, -⟩⟩ := answers_respond failed
    · exact .inl ⟨isEmpty, noUsage⟩
    · cases isAnswer
  obtain ⟨noUsage, noRefusal, ⟨⟨error, isError⟩, -⟩ | ⟨found, count, isFound, isAnswer⟩⟩ :=
    answers_respond responded
  · cases isError
  obtain ⟨rfl, rfl⟩ := Prod.mk.inj (Except.ok.inj isFound)
  have sameRefusals : (tally (admission ++ (responding ++ delivering))).refusals =
      (tally delivering).refusals := by
    rw [tally_append, tally_of_checks (tally_of_preflight admitted), Tally.none_plus, tally_append]
    show (tally responding).refusals + _ = _
    rw [noRefusal, Nat.zero_add]
  right
  refine ⟨result, ?_⟩
  rw [tally_append, AIGatewayOptions.accepts_congr sameRefusals]
  rcases trace_deliver delivered with ⟨accepts, isTally⟩ | ⟨refuses, refusals, isTally⟩
  · rw [isTally]
    exact ⟨by simp [Tally.plus, Tally.none, isAnswer],
      .inl ⟨accepts, by simp [Tally.plus, noUsage]⟩⟩
  · rw [isTally]
    exact ⟨by simp [Tally.plus, Tally.none, isAnswer],
      .inr ⟨refuses, by simp [Tally.plus, Tally.none, noUsage]⟩⟩

/-- The usage of a request is added exactly if its responses are let through. -/
theorem added_eq_received_iff (hasStore : options.usage = true)
    (handled : HandledRequest options) :
    (tally handled.entries).added = handled.received ↔ handled.AcceptsResponses := by
  unfold HandledRequest.received HandledRequest.AcceptsResponses
  rcases answers_cases handled with ⟨isEmpty, noUsage⟩ | ⟨result, isAnswer, outcome⟩
  · rw [isEmpty, noUsage]
    refine iff_of_true rfl ?_
    intro role provider result member
    have answered := mem_answers_iff.mpr ⟨role, provider, member⟩
    rw [isEmpty] at answered
    exact absurd answered List.not_mem_nil
  · have accepted_iff : (∀ role provider found,
        ⟨.generate role provider handled.request, .ok found⟩ ∈ handled.entries →
          options.Accepts found handled.entries) ↔ options.Accepts result handled.entries := by
      constructor
      · intro every
        obtain ⟨role, provider, member⟩ :=
          mem_answers_iff.mp (by rw [isAnswer]; exact List.mem_singleton_self _)
        exact every role provider result member
      · intro accepts role provider found member
        have answered := mem_answers_iff.mpr ⟨role, provider, member⟩
        rw [isAnswer] at answered
        obtain ⟨-, rfl⟩ := Prod.mk.inj (List.mem_singleton.mp answered)
        exact accepts
    rw [accepted_iff, isAnswer]
    rcases outcome with ⟨accepts, isAdded⟩ | ⟨refuses, noUsage⟩
    · rw [isAdded, if_pos hasStore]
      exact iff_of_true rfl accepts
    · rw [noUsage]
      exact iff_of_false (List.cons_ne_nil _ _).symm refuses

/-- A request that reaches a provider has passed the quota. -/
theorem belowQuota_of_admitted (handled : HandledRequest options)
    (hasStore : options.usage = true) (hasQuota : options.tenantTokenQuota.getD 0 ≠ 0)
    (admitted : handled.Admitted) :
    ∃ used, ⟨.getUsedTokens handled.request.tenantId handled.windowKey, .ok used⟩ ∈
        handled.entries ∧ used < options.tenantTokenQuota.getD 0 := by
  obtain ⟨windowKey, request, entries, ended, trace⟩ := handled
  rcases Program.trace_bind_iff.mp trace with
    ⟨error, refused, rfl⟩ | ⟨_passed, admission, others, rfl, passed, -⟩
  · obtain ⟨entry, member, role, asked⟩ := admitted
    have isCheck := tally_of_preflight refused entry member
    obtain ⟨call, outcome⟩ := entry
    cases call with
    | generate => exact isCheck.elim
    | authorize | validateInput | getUsedTokens | validateOutput | addUsage | record =>
        cases asked
  · obtain ⟨used, isAsked, below⟩ := belowQuota_of_preflight passed hasStore hasQuota
    exact ⟨used, List.mem_append_left others isAsked, below⟩

/-! ## Runs -/

/-- The usage store holds what was received in every state of a run just when
every response was let through.  A request of such a run that reaches a
provider found the tenant's consumption below the quota. -/
theorem usageComplete_iff (hasStore : options.usage = true)
    (requests : List (HandledRequest options)) :
    ((∀ prior, prior <+: requests → (run handleRequest newAccounts prior).Complete) ↔
      ∀ handled ∈ requests, handled.AcceptsResponses) ∧
    ((∀ handled ∈ requests, handled.AcceptsResponses) →
      ∀ prior handled, prior ++ [handled] <+: requests →
        options.tenantTokenQuota.getD 0 ≠ 0 → handled.Admitted →
        ∀ inWindow, handled.ReportsUsage inWindow (run handleRequest newAccounts prior).added →
          usedTokens inWindow handled.request.tenantId
              (run handleRequest newAccounts prior).received <
            options.tenantTokenQuota.getD 0) := by
  have exact_iff : (∀ prior, prior <+: requests →
      (run handleRequest newAccounts prior).Complete) ↔
        ∀ handled ∈ requests, handled.AcceptsResponses := by
    rw [← everyStep_action_iff handleRequest newAccounts]
    refine @everyState_iff_everyStep _ _ handleRequest
      (fun _ handled => handled.AcceptsResponses) UsageAccounts.Complete UsageAccounts.Complete
      ?_ ?_ ?_ newAccounts requests rfl
    · intro accounts handled complete accepts
      have added := (added_eq_received_iff hasStore handled).mpr accepts
      show accounts.added ++ _ = accounts.received ++ _
      rw [complete, added]
    · exact fun accounts complete => complete
    · intro accounts handled complete after
      have same : accounts.added ++ (tally handled.entries).added =
          accounts.received ++ handled.received := after
      rw [complete] at same
      exact (added_eq_received_iff hasStore handled).mp (List.append_cancel_left same)
  refine ⟨exact_iff, ?_⟩
  intro accepts prior handled isPrefix hasQuota admitted inWindow reports
  have complete := exact_iff.mpr accepts prior ((List.prefix_append prior [handled]).trans isPrefix)
  obtain ⟨used, isAsked, below⟩ := belowQuota_of_admitted handled hasStore hasQuota admitted
  have isUsed := reports _ _ _ isAsked
  rw [complete] at isUsed
  rw [← isUsed]
  exact below

section Example

/-- A gateway with one provider, a usage store and a quota. -/
private def meteredOptions : AIGatewayOptions where
  primary := "openai"
  fallback := none
  route _ := none
  maxInputChars := none
  maxOutputChars := some 5
  maxOutputTokens := none
  tenantTokenQuota := some 100
  maxRetries := some 0
  authorize := false
  validateInput := false
  validateOutput := false
  usage := true
  telemetry := false

private def askQuestion : AIModelRequest where
  tenantId := "t1"
  workspaceId := none
  input := some "question"
  maxTokens := none
  correlationId := "c1"

/-- Surroundings in which the provider gives an output of ten tokens. -/
private def answering (used : Int) (output : String) (_before : List GatewayEntry) :
    (call : GatewayCall) → Except GatewayError call.Reply
  | .authorize _ _ => .ok true
  | .getUsedTokens _ _ => .ok used
  | .generate _ _ _ => .ok ⟨output, "m", 6, 4, "openai"⟩
  | .validateInput _ | .validateOutput _ | .addUsage _ | .record _ => .ok ()

private def asked (used : Int) (output : String) : HandledRequest meteredOptions where
  windowKey := "2026-01"
  request := askQuestion
  entries := ((meteredOptions.generate "2026-01" askQuestion).follow (answering used output) []).1
  ended := ((meteredOptions.generate "2026-01" askQuestion).follow (answering used output) []).2
  trace := Program.trace_follow _ _ _

private theorem entries_asked :
    (asked 10 "short").entries =
      [⟨.getUsedTokens "t1" "2026-01", .ok 10⟩,
        ⟨.generate .primary "openai" askQuestion, .ok ⟨"short", "m", 6, 4, "openai"⟩⟩,
        ⟨.addUsage ⟨"t1", none, 6, 4, "openai", "m"⟩, .ok ()⟩] :=
  rfl

theorem usageComplete_of_shortOutputs :
    (∀ prior, prior <+: [asked 0 "short", asked 10 "short"] →
      (run handleRequest newAccounts prior).Complete) ∧
      usedTokens (fun _ => true) "t1"
        (run handleRequest newAccounts [asked 0 "short"]).received < 100 := by
  obtain ⟨exact_iff, belowQuota⟩ :=
    @usageComplete_iff meteredOptions rfl [asked 0 "short", asked 10 "short"]
  have accepts : ∀ handled ∈ [asked 0 "short", asked 10 "short"], handled.AcceptsResponses := by
    intro handled member
    apply (added_eq_received_iff rfl handled).mp
    simp only [List.mem_cons, List.not_mem_nil, or_false] at member
    rcases member with rfl | rfl <;> decide +kernel
  refine ⟨exact_iff.mpr accepts, belowQuota accepts [asked 0 "short"] (asked 10 "short")
    (List.prefix_refl _) (by decide) ?_ (fun _ => true) ?_⟩
  · exact ⟨_, by rw [entries_asked]; exact List.mem_cons_of_mem _ List.mem_cons_self,
      .primary, rfl⟩
  · intro tenantId windowKey used member
    rw [entries_asked] at member
    simp only [List.mem_cons, List.not_mem_nil, or_false] at member
    rcases member with asks | generates | adds
    · cases asks
      decide +kernel
    · cases generates
    · cases adds

/-- A response that is too long is received and never added. -/
theorem usageComplete_not_of_longOutput :
    (run handleRequest newAccounts [asked 0 "too long"]).received =
        [⟨"t1", none, 6, 4, "openai", "m"⟩] ∧
      (run handleRequest newAccounts [asked 0 "too long"]).added = [] ∧
      ¬ (run handleRequest newAccounts [asked 0 "too long"]).Complete := by
  refine ⟨by decide +kernel, by decide +kernel, ?_⟩
  unfold UsageAccounts.Complete
  decide +kernel

end Example

end PlatformArchitecture.Services
