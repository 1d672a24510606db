import Mathlib.Data.Fintype.Card
import PlatformArchitecture.Foundations.StatementProtocols
import PlatformArchitecture.Services.AiUsage

/-!
# The tenant quota under concurrent requests

`AIGateway.generate` compares the tokens used with the quota before it asks a
provider, and adds the usage of the response afterwards.  Requests that run
concurrently can all pass the comparison and then exceed the quota together, but
by no more than one response for each caller: between the comparison and
`addUsage` a caller is admitted for the tokens of one response.
-/

namespace PlatformArchitecture.Services

open PlatformArchitecture.Foundations

/-! ## Callers, and what surrounds them -/

/-- A caller sends its requests one after the other, and goes on after an error. -/
def serveAll (options : AIGatewayOptions) (windowKey : String) :
    List AIModelRequest → GatewayProgram Unit
  | [] => pure ()
  | request :: rest => do
      Program.orElse
        (do
          let _ ← options.generate windowKey request
          return ())
        fun _ => pure ()
      serveAll options windowKey rest

/-- How one call goes: how it and its answer travel, whether access is allowed,
what a provider answers and which error is thrown.  No provider takes more input
than its context holds. -/
structure GatewayChoice (contextTokens : Nat) where
  delivery : Delivery
  allowed : Bool
  response : AIModelResponse
  error : GatewayError
  withinContext : response.inputTokens ≤ contextTokens

section Model

variable {contextTokens : Nat}

/-- The usage store reports the records of the window. -/
def GatewayChoice.answer (choice : GatewayChoice contextTokens) (inWindow : Nat → Bool)
    (added : List UsageRecord) : (call : GatewayCall) → call.Reply
  | .authorize _ _ => choice.allowed
  | .validateInput _ => ()
  | .getUsedTokens tenantId _ => usedTokens inWindow tenantId added
  | .generate _ _ _ => choice.response
  | .validateOutput _ => ()
  | .addUsage _ => ()
  | .record _ => ()

def recordCall (added : List UsageRecord) : GatewayCall → List UsageRecord
  | .addUsage usage => added ++ [usage]
  | _ => added

/-- What surrounds the callers of a gateway. -/
def gatewayServer (Pid : Type) (contextTokens : Nat) (inWindow : Nat → Bool) :
    Server Pid (GatewayChoice contextTokens) (List UsageRecord) GatewayCall GatewayCall.Reply
      GatewayError where
  outcome _ choice call added :=
    match choice.delivery with
    | .answered => some (.ok (choice.answer inWindow added call), recordCall added call)
    | .refused => some (.error choice.error, added)
    | .unacknowledged => some (.error choice.error, recordCall added call)
  disconnect _ added := added

end Model

/-- The most tokens that one request can add. -/
def AIGatewayOptions.responseBound (options : AIGatewayOptions) (contextTokens : Nat) : Nat :=
  contextTokens + (options.maxOutputTokens.getD 8192).toNat

/-! ## The quota as a protocol -/

/-- A caller adds usage for the tenant it is admitted for, once. -/
def quotaProtocol (options : AIGatewayOptions) (contextTokens : Nat) :
    StatementProtocol (Option String) GatewayCall GatewayCall.Reply GatewayError where
  allowed
    | admitted, .addUsage usage =>
        admitted = some usage.tenantId ∧
          usage.inputTokens + usage.outputTokens ≤ options.responseBound contextTokens
    | _, _ => True
  expected
    | .generate _ _ _, .ok response => response.inputTokens ≤ contextTokens
    | _, _ => True
  advance
    | _, .getUsedTokens tenantId _, .ok used =>
        if used < options.tenantTokenQuota.getD 0 then some tenantId else none
    | _, .addUsage _, _ => none
    | admitted, _, _ => admitted

section Callers

variable {options : AIGatewayOptions} {contextTokens : Nat} {stage : Option String}
  {request : AIModelRequest}

/-- A check of the gateway issues nothing. -/
theorem obeys_failIf {condition : Prop} [Decidable condition] {message : String}
    {holds : PUnit → Option String → Prop} (passes : ¬ condition → holds ⟨⟩ stage) :
    (failIf condition message).Obeys (quotaProtocol options contextTokens)
      (Program.ifOk holds) stage := by
  apply Program.obeys_check
  by_cases fails : condition
  · rw [throwIf_of_pos fails]
    trivial
  · rw [throwIf_of_not fails]
    exact passes fails

/-- Calls other than to the usage store are allowed at every stage. -/
theorem obeys_checkAccess :
    (options.checkAccess request).Obeys (quotaProtocol options contextTokens)
      (Program.ifOk fun _ _ => True) stage := by
  unfold AIGatewayOptions.checkAccess
  split
  · apply Program.obeys_andThen
    refine Program.obeys_call trivial ?_
    intro reply _
    cases reply with
    | ok allowed => exact obeys_failIf fun _ => trivial
    | error error => trivial
  · trivial

theorem obeys_checkInput :
    (options.checkInput request).Obeys (quotaProtocol options contextTokens)
      (Program.ifOk fun _ _ => True) stage := by
  unfold AIGatewayOptions.checkInput
  split
  · refine Program.obeys_call trivial ?_
    intro reply _
    cases reply with
    | ok _ => trivial
    | error error => trivial
  · trivial

/-- A caller that passes the quota is admitted. -/
theorem obeys_checkQuota {windowKey : String} (hasStore : options.usage = true)
    (hasQuota : 0 < options.tenantTokenQuota.getD 0) :
    (options.checkQuota windowKey request).Obeys (quotaProtocol options contextTokens)
      (Program.ifOk fun _ admitted => admitted = some request.tenantId) stage := by
  unfold AIGatewayOptions.checkQuota
  rw [if_pos ⟨hasStore, hasQuota.ne'⟩]
  apply Program.obeys_andThen
  refine Program.obeys_call trivial ?_
  intro reply _
  cases reply with
  | error error => trivial
  | ok used =>
      apply obeys_failIf
      intro below
      exact if_pos (not_le.mp below)

theorem obeys_preflight {windowKey : String} (hasStore : options.usage = true)
    (hasQuota : 0 < options.tenantTokenQuota.getD 0) :
    (options.preflight windowKey request).Obeys (quotaProtocol options contextTokens)
      (Program.ifOk fun _ admitted => admitted = some request.tenantId) stage := by
  unfold AIGatewayOptions.preflight
  refine Program.obeys_andThen (obeys_failIf fun _ => ?_)
  refine Program.obeys_andThen (obeys_failIf fun _ => ?_)
  refine Program.obeys_andThen (obeys_failIf fun _ => ?_)
  refine Program.obeys_andThen_always obeys_checkAccess fun _ _ => ?_
  refine Program.obeys_andThen_always obeys_checkInput fun _ _ => ?_
  exact obeys_checkQuota hasStore hasQuota

/-- What a provider answers fits its context, and asking it changes no stage. -/
def Responds (contextTokens : Nat) (stage : Option String) :
    Except GatewayError (AIModelResponse × Nat) → Option String → Prop
  | .ok (response, _), after => after = stage ∧ response.inputTokens ≤ contextTokens
  | .error _, after => after = stage

theorem obeys_invoke (role : ProviderRole) (provider : String) (request : AIModelRequest)
    (remaining attempt : Nat) :
    (AIGatewayOptions.invoke role provider request remaining attempt).Obeys
      (quotaProtocol options contextTokens) (Responds contextTokens stage) stage := by
  have asks : ∀ attempt, Program.Obeys (quotaProtocol options contextTokens)
      (do
        let result ← awaitGateway (.generate role provider request)
        return (result, attempt + 1))
      (Responds contextTokens stage) stage := by
    intro attempt
    apply Program.obeys_bind
    refine Program.obeys_call trivial ?_
    intro reply isExpected
    cases reply with
    | ok response => exact ⟨rfl, isExpected⟩
    | error error => rfl
  induction remaining generalizing attempt with
  | zero => exact asks attempt
  | succ remaining inductionHypothesis =>
      apply Program.obeys_orElse
      refine (asks attempt).mono ?_
      intro result after responds
      cases result with
      | ok answer => exact responds
      | error error =>
          cases responds
          exact inductionHypothesis (attempt + 1)

theorem obeys_recordEvent (event : TelemetryEvent) :
    (options.recordEvent event).Obeys (quotaProtocol options contextTokens)
      (fun _ after => after = stage) stage := by
  unfold AIGatewayOptions.recordEvent
  split
  · refine Program.obeys_call trivial ?_
    intro reply _
    rfl
  · rfl

/-- Neither the retries, the fallback nor the telemetry touch the usage. -/
theorem obeys_respond (request : AIModelRequest) :
    (options.respond request).Obeys (quotaProtocol options contextTokens)
      (Responds contextTokens stage) stage := by
  apply Program.obeys_orElse
  refine (obeys_invoke .primary _ request options.retries 0).mono ?_
  intro result after responds
  cases result with
  | ok answer => exact responds
  | error primaryError =>
      cases responds
      cases options.fallback with
      | none =>
          apply Program.obeys_bind
          refine (obeys_recordEvent _).mono ?_
          intro recorded afterEvent unchanged
          cases unchanged
          cases recorded with
          | ok _ => rfl
          | error error => rfl
      | some fallback =>
          apply Program.obeys_bind
          refine (obeys_recordEvent _).mono ?_
          intro recorded afterEvent unchanged
          cases unchanged
          cases recorded with
          | error error => rfl
          | ok _ =>
              apply Program.obeys_orElse
              refine (obeys_invoke .fallback fallback request options.retries 0).mono ?_
              intro answered afterFallback fallbackResponds
              cases answered with
              | ok answer => exact fallbackResponds
              | error error => exact fallbackResponds

theorem obeys_checkOutput (response : AIModelResponse) :
    (options.checkOutput response).Obeys (quotaProtocol options contextTokens)
      (Program.ifOk fun _ after => after = stage) stage := by
  unfold AIGatewayOptions.checkOutput
  split
  · refine Program.obeys_call trivial ?_
    intro reply _
    cases reply with
    | ok _ => rfl
    | error error => trivial
  · rfl

/-- The usage that is added is of a response within the limits, and for the tenant
that was admitted. -/
theorem obeys_account {response : AIModelResponse}
    (withinContext : response.inputTokens ≤ contextTokens)
    (withinOutput : response.outputTokens ≤ options.maxOutputTokens.getD 8192) :
    (options.account request response).Obeys (quotaProtocol options contextTokens)
      (Program.ifOk fun _ _ => True) (some request.tenantId) := by
  unfold AIGatewayOptions.account
  split
  · have withinBound : response.inputTokens + response.outputTokens ≤
        options.responseBound contextTokens := by
      unfold AIGatewayOptions.responseBound
      have := Int.self_le_toNat (options.maxOutputTokens.getD 8192)
      omega
    refine Program.obeys_call ⟨rfl, withinBound⟩ ?_
    intro reply _
    cases reply with
    | ok _ => trivial
    | error error => trivial
  · trivial

theorem obeys_deliver {response : AIModelResponse} {attempts : Nat}
    (withinContext : response.inputTokens ≤ contextTokens) :
    (options.deliver request response attempts).Obeys (quotaProtocol options contextTokens)
      (Program.ifOk fun _ _ => True) (some request.tenantId) := by
  unfold AIGatewayOptions.deliver
  refine Program.obeys_andThen (obeys_failIf fun _ => ?_)
  refine Program.obeys_andThen (obeys_failIf fun withinOutput => ?_)
  refine Program.obeys_andThen ((obeys_checkOutput response).mono ?_)
  intro checked after unchanged
  cases checked with
  | error error => trivial
  | ok _ =>
      cases unchanged
      refine Program.obeys_andThen_always
        (obeys_account withinContext (not_lt.mp withinOutput)) fun _ _ => ?_
      exact Program.obeys_andThen_always (obeys_recordEvent _).anyResult fun _ _ => trivial

theorem obeys_generate (windowKey : String) (request : AIModelRequest)
    (hasStore : options.usage = true) (hasQuota : 0 < options.tenantTokenQuota.getD 0) :
    (options.generate windowKey request).Obeys (quotaProtocol options contextTokens)
      (Program.ifOk fun _ _ => True) stage := by
  refine Program.obeys_andThen ((obeys_preflight hasStore hasQuota).mono ?_)
  intro passed admitted isAdmitted
  cases passed with
  | error error => trivial
  | ok _ =>
      cases isAdmitted
      refine Program.obeys_andThen ((obeys_respond request).mono ?_)
      intro responded after responds
      cases responded with
      | error error => trivial
      | ok answer =>
          obtain ⟨rfl, withinContext⟩ := responds
          exact obeys_deliver withinContext

theorem obeys_serveAll (windowKey : String) (requests : List AIModelRequest)
    (hasStore : options.usage = true) (hasQuota : 0 < options.tenantTokenQuota.getD 0) :
    (serveAll options windowKey requests).Obeys (quotaProtocol options contextTokens)
      (Program.ifOk fun _ _ => True) stage := by
  induction requests generalizing stage with
  | nil => trivial
  | cons request rest inductionHypothesis =>
      have served : Program.Obeys (quotaProtocol options contextTokens)
          (do
            let _ ← options.generate windowKey request
            return ())
          (Program.ifOk fun _ _ => True) stage :=
        Program.obeys_andThen_always (obeys_generate windowKey request hasStore hasQuota)
          fun _ _ => trivial
      refine Program.obeys_andThen_always ?_ fun _ _ => inductionHypothesis
      apply Program.obeys_orElse
      refine served.mono ?_
      intro result after _
      cases result with
      | ok _ => trivial
      | error error => trivial

end Callers

/-! ## What is used and what is admitted -/

theorem usedTokens_append (inWindow : Nat → Bool) (tenantId : String)
    (records : List UsageRecord) (usage : UsageRecord) :
    usedTokens inWindow tenantId (records ++ [usage]) =
      usedTokens inWindow tenantId records +
        if usage.tenantId = tenantId ∧ inWindow records.length then
          usage.inputTokens + usage.outputTokens
        else 0 := by
  unfold usedTokens
  rw [List.zipIdx_append, List.filter_append, List.map_append, List.sum_append]
  congr 1
  split
  · next counted => simp [counted]
  · next notCounted => simp [notCounted]

section Admission

variable {Pid : Type} [Fintype Pid] [DecidableEq Pid]

/-- The callers that are not admitted for a tenant. -/
def idleFor (admitted : Pid → Option String) (tenantId : String) : Finset Pid :=
  Finset.univ.filter fun pid => admitted pid ≠ some tenantId

theorem card_idleFor_of_ne (admitted : Pid → Option String) (pid : Pid) {tenantId : String}
    {stage : Option String} (notAdmitted : stage ≠ some tenantId) :
    (idleFor admitted tenantId).card ≤
      (idleFor (Function.update admitted pid stage) tenantId).card := by
  apply Finset.card_le_card
  intro other isIdle
  simp only [idleFor, Finset.mem_filter_univ] at isIdle ⊢
  by_cases same : other = pid
  · subst other
    rwa [Function.update_self]
  · rwa [Function.update_of_ne same]

/-- A caller that is no longer admitted is idle. -/
theorem card_idleFor_released {admitted : Pid → Option String} {pid : Pid} {tenantId : String}
    (isAdmitted : admitted pid = some tenantId) :
    (idleFor (Function.update admitted pid none) tenantId).card =
      (idleFor admitted tenantId).card + 1 := by
  have isBusy : pid ∉ idleFor admitted tenantId := by
    simp [idleFor, isAdmitted]
  rw [← Finset.card_insert_of_notMem isBusy]
  congr 1
  ext other
  by_cases same : other = pid
  · subst other
    simp [idleFor]
  · simp [idleFor, same]

/-- A tenant has used less than its quota, up to one response for every caller that
is not admitted for it. -/
def WithinQuota (options : AIGatewayOptions) (contextTokens : Nat) (inWindow : Nat → Bool)
    (added : List UsageRecord) (admitted : Pid → Option String) : Prop :=
  ∀ tenantId,
    usedTokens inWindow tenantId added <
      options.tenantTokenQuota.getD 0 +
        ((idleFor admitted tenantId).card * options.responseBound contextTokens : ℕ)

variable {options : AIGatewayOptions} {contextTokens : Nat} {inWindow : Nat → Bool}
  {added : List UsageRecord} {admitted : Pid → Option String} {pid : Pid}

theorem WithinQuota.released (within : WithinQuota options contextTokens inWindow added admitted) :
    WithinQuota options contextTokens inWindow added (Function.update admitted pid none) := by
  intro tenantId
  have moreIdle := Nat.mul_le_mul_right (options.responseBound contextTokens)
    (card_idleFor_of_ne admitted pid (Option.some_ne_none tenantId).symm)
  have before := within tenantId
  omega

/-- The comparison with the quota leaves room for every idle caller. -/
theorem WithinQuota.admits {tenantId : String}
    (within : WithinQuota options contextTokens inWindow added admitted)
    (below : usedTokens inWindow tenantId added < options.tenantTokenQuota.getD 0) :
    WithinQuota options contextTokens inWindow added
      (Function.update admitted pid (some tenantId)) := by
  intro other
  by_cases same : other = tenantId
  · subst other
    omega
  · have isOther : some tenantId ≠ some other :=
      fun isSame => same (Option.some.inj isSame).symm
    have moreIdle := Nat.mul_le_mul_right (options.responseBound contextTokens)
      (card_idleFor_of_ne admitted pid isOther)
    have before := within other
    omega

/-- The usage of a response takes the room of the caller that was admitted. -/
theorem WithinQuota.adds {usage : UsageRecord}
    (within : WithinQuota options contextTokens inWindow added admitted)
    (isAdmitted : admitted pid = some usage.tenantId)
    (bounded : usage.inputTokens + usage.outputTokens ≤ options.responseBound contextTokens) :
    WithinQuota options contextTokens inWindow (added ++ [usage])
      (Function.update admitted pid none) := by
  intro tenantId
  rw [usedTokens_append]
  by_cases same : usage.tenantId = tenantId
  · subst tenantId
    rw [card_idleFor_released isAdmitted, Nat.succ_mul]
    have before := within usage.tenantId
    split
    · omega
    · omega
  · rw [if_neg fun counted => same counted.1, add_zero]
    exact within.released tenantId

/-- One call of a caller that obeys the protocol keeps every tenant within its quota. -/
theorem quotaProtocol_keeps {choice : GatewayChoice contextTokens} {call : GatewayCall}
    {reply : Except GatewayError call.Reply} {recorded : List UsageRecord}
    (within : WithinQuota options contextTokens inWindow added admitted)
    (isAllowed : (quotaProtocol options contextTokens).allowed (admitted pid) call)
    (answered : (gatewayServer Pid contextTokens inWindow).outcome pid choice call added =
      some (reply, recorded)) :
    (quotaProtocol options contextTokens).expected call reply ∧
      WithinQuota options contextTokens inWindow recorded
        (Function.update admitted pid
          ((quotaProtocol options contextTokens).advance (admitted pid) call reply)) := by
  have unchanged : WithinQuota options contextTokens inWindow added
      (Function.update admitted pid (admitted pid)) := by
    rw [Function.update_eq_self]
    exact within
  obtain ⟨delivery, allowed, response, error, withinContext⟩ := choice
  cases call with
  | authorize _ _ | validateInput _ | validateOutput _ | record _ =>
      cases delivery with
      | answered | refused | unacknowledged =>
          cases answered
          exact ⟨trivial, unchanged⟩
  | generate _ _ _ =>
      cases delivery with
      | answered =>
          cases answered
          exact ⟨withinContext, unchanged⟩
      | refused | unacknowledged =>
          cases answered
          exact ⟨trivial, unchanged⟩
  | getUsedTokens tenantId _ =>
      cases delivery with
      | answered =>
          cases answered
          refine ⟨trivial, ?_⟩
          change WithinQuota options contextTokens inWindow added
            (Function.update admitted pid
              (if usedTokens inWindow tenantId added < options.tenantTokenQuota.getD 0 then
                some tenantId
              else none))
          split
          · next below => exact within.admits below
          · exact within.released
      | refused | unacknowledged =>
          cases answered
          exact ⟨trivial, unchanged⟩
  | addUsage usage =>
      obtain ⟨isAdmitted, bounded⟩ := isAllowed
      cases delivery with
      | answered | unacknowledged =>
          cases answered
          exact ⟨trivial, within.adds isAdmitted bounded⟩
      | refused =>
          cases answered
          exact ⟨trivial, within.released⟩

end Admission

/-! ## Whole runs -/

/-- Callers that begin together, before anything is used. -/
def callersStart {Pid : Type} (options : AIGatewayOptions) (windowKey : String)
    (requests : Pid → List AIModelRequest) :
    World Pid (List UsageRecord) GatewayCall GatewayCall.Reply GatewayError Unit :=
  World.start [] fun pid => serveAll options windowKey (requests pid)

/-- However the requests of a window interleave, whatever fails and whichever
answers are lost, a tenant uses less than its quota and one more response for each
caller. -/
theorem quota_overshoot {Pid : Type} [Fintype Pid] [DecidableEq Pid]
    {options : AIGatewayOptions} {contextTokens : Nat} {inWindow : Nat → Bool}
    (hasStore : options.usage = true) (hasQuota : 0 < options.tenantTokenQuota.getD 0)
    (windowKey : String) (requests : Pid → List AIModelRequest)
    (events : List (Event Pid (GatewayChoice contextTokens))) (tenantId : String) :
    usedTokens inWindow tenantId
        (run (World.step (gatewayServer Pid contextTokens inWindow))
          (callersStart options windowKey requests) events).shared <
      options.tenantTokenQuota.getD 0 +
        (Fintype.card Pid * options.responseBound contextTokens : ℕ) := by
  have starts : (callersStart options windowKey requests).Staged
      (quotaProtocol options contextTokens) (WithinQuota options contextTokens inWindow) := by
    refine World.start_staged (fun _ => none) ?_ ?_
    · intro tenantId
      change 0 < _
      omega
    · intro pid
      exact (obeys_serveAll windowKey (requests pid) hasStore hasQuota).mono fun _ _ _ => trivial
  have ends : (run (World.step (gatewayServer Pid contextTokens inWindow))
      (callersStart options windowKey requests) events).Staged
      (quotaProtocol options contextTokens) (WithinQuota options contextTokens inWindow) := by
    refine run_invariant_of_step ?_ events starts
    intro world event staged
    refine staged.step ?_ ?_ event
    · intro added admitted pid choice call reply recorded within isAllowed answered
      exact quotaProtocol_keeps within isAllowed answered
    · intro pid added admitted within
      exact within
  obtain ⟨admitted, within, -⟩ := ends
  have idle : (idleFor admitted tenantId).card ≤ Fintype.card Pid := Finset.card_le_univ _
  have room := Nat.mul_le_mul_right (options.responseBound contextTokens) idle
  have used := within tenantId
  omega

private def quotaOptions : AIGatewayOptions where
  primary := "openai"
  fallback := none
  route _ := none
  maxInputChars := none
  maxOutputChars := none
  maxOutputTokens := some 4
  tenantTokenQuota := some 1
  maxRetries := some 0
  authorize := false
  validateInput := false
  validateOutput := false
  usage := true
  telemetry := false

private def shortQuestion : AIModelRequest where
  tenantId := "t1"
  workspaceId := none
  input := some "question"
  maxTokens := none
  correlationId := "c1"

/-- A call that succeeds; the provider takes six tokens and gives four. -/
private def succeeds : GatewayChoice 6 where
  delivery := .answered
  allowed := true
  response := ⟨"answer", "m", 6, 4, "openai"⟩
  error := .thrown
  withinContext := by decide

/-- Two callers take turns with one request each. -/
private def twoCallers : List (Event Bool (GatewayChoice 6)) :=
  [.statement true succeeds, .statement false succeeds, .statement true succeeds,
    .statement false succeeds, .statement true succeeds, .statement false succeeds]

/-- Both pass a quota of one token, and use the most that two callers can. -/
theorem quota_overshoot_twoCallers :
    usedTokens (fun _ => true) "t1"
        (run (World.step (gatewayServer Bool 6 fun _ => true))
          (callersStart quotaOptions "2026-01" fun _ => [shortQuestion]) twoCallers).shared = 20 ∧
      usedTokens (fun _ => true) "t1"
        (run (World.step (gatewayServer Bool 6 fun _ => true))
          (callersStart quotaOptions "2026-01" fun _ => [shortQuestion]) twoCallers).shared <
        1 + (2 * 10 : ℕ) := by
  refine ⟨by decide +kernel, ?_⟩
  exact quota_overshoot rfl (by decide) "2026-01" (fun _ => [shortQuestion]) twoCallers "t1"

end PlatformArchitecture.Services
