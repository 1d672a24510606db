import PlatformArchitecture.Foundations.JsNumbers
import PlatformArchitecture.Foundations.PercentEncoding
import PlatformArchitecture.Foundations.RetryLoops
import PlatformArchitecture.PolicyEngine.PlatformPolicy

/-!
# The API client

`request` tries again after any error, with a method that is not safe to
repeat only under an idempotency key.  Its headers and its body are made for
every attempt, and an attempt that fails while they are made sends nothing.
-/

namespace PlatformArchitecture.Web.ApiClient

open PlatformArchitecture.Foundations

variable {Body Reason Value : Type}

inductive Method where
  | get
  | post
  | put
  | patch
  | delete
  deriving DecidableEq

/-- What is thrown.  A failure is what `fetch`, `response.json`,
`JSON.stringify` or `validate` has thrown. -/
inductive Thrown (Reason : Type) where
  | apiError (status : Nat) (code message : Json) (requestId : Option Json)
  | uriError
  | typeError
  | failure (reason : Reason)
  | undefined

/-! ## Headers -/

/-- `value ? { [name]: value } : {}`. -/
def headerOf (name : String) (value : Option String) : List (String × String) :=
  ((value.filter (· ≠ "")).map fun given => (name, given)).toList

def mutating : List Method :=
  [.post, .put, .patch, .delete]

def csrfCookie : List Char :=
  "__Host-csrf=".toList

/-- What the cookies hold behind the name. -/
def csrfValue (cookies : String) : Option String :=
  (((cookies.toList.splitOn ';').map PolicyEngine.trim).find? csrfCookie.isPrefixOf).map
    fun cookie => String.ofList (cookie.drop csrfCookie.length)

/-- Outside of a page there is no `document`. -/
def csrfTokenFromDocument (document : Option String) : Except (Thrown Reason) (Option String) :=
  match document.bind csrfValue with
  | none => .ok none
  | some value =>
      if value = "" then .ok none
      else
        match decodeURIComponent value with
        | some token => .ok (some token)
        | none => .error .uriError

def csrfHeaders (method : Method) (document : Option String) :
    Except (Thrown Reason) (List (String × String)) :=
  if mutating.contains method then
    (csrfTokenFromDocument document).map (headerOf "x-csrf-token")
  else
    .ok []

/-! ## Requests -/

structure RequestOptions (Body Reason Value : Type) where
  method : Option Method
  body : Option Body
  retries : Option Int
  /-- Its calls are told apart by the attempt. -/
  validate : Option (Nat → Json → Except Reason Value)
  idempotencyKey : Option String

structure Request where
  url : String
  method : Method
  credentials : String
  headers : List (String × String)
  body : Option String

structure Response (Reason : Type) where
  status : Nat
  json : Except Reason Json

def Response.ok (response : Response Reason) : Bool :=
  decide (200 ≤ response.status ∧ response.status ≤ 299)

/-- What an attempt finds: the cookies of the document, what `JSON.stringify`
makes of a body, how `fetch` ends and what `Math.random()` returns. -/
structure Surroundings (Body Reason : Type) where
  document : Option String
  stringify : Body → Except Reason (Option String)
  fetched : Except Reason (Response Reason)
  random : Random

/-- What `request` returns: the value of `validate`, or a value as it came. -/
inductive Returned (Value : Type) where
  | validated (value : Value)
  | unchecked (value : Json)

inductive Event where
  | fetch (request : Request)
  | wait (ms : Int)

def safeRetry : List Method :=
  [.get, .put, .delete]

namespace RequestOptions

variable (options : RequestOptions Body Reason Value)

def methodOrGet : Method :=
  options.method.getD .get

/-- An empty key counts as none. -/
def givenKey : Option String :=
  options.idempotencyKey.filter (· ≠ "")

def attempts : Int :=
  max 1 (1 + options.retries.getD 0)

/-- `safeRetry.has(method) || options.idempotencyKey`. -/
def mayRetry : Bool :=
  safeRetry.contains options.methodOrGet || options.givenKey.isSome

def serializedBody (stringify : Body → Except Reason (Option String)) :
    Except (Thrown Reason) (Option String) :=
  match options.body with
  | none => .ok none
  | some body => (stringify body).mapError .failure

def headers (csrf : List (String × String)) : List (String × String) :=
  ("content-type", "application/json") :: csrf ++
    headerOf "idempotency-key" options.idempotencyKey

/-- The arguments of `fetch`. -/
def prepare (url : String) (surroundings : Surroundings Body Reason) :
    Except (Thrown Reason) Request := do
  let csrf ← csrfHeaders options.methodOrGet surroundings.document
  let body ← options.serializedBody surroundings.stringify
  return ⟨url, options.methodOrGet, "include", options.headers csrf, body⟩

/-- `value ?? fallback`. -/
def orFallback (value : Option Json) (fallback : String) : Json :=
  match value with
  | none | some .null => .str fallback
  | some given => given

/-- The error of a response that is not `ok`: `null` has no property to read. -/
def responseError (status : Nat) : Json → Thrown Reason
  | .null => .typeError
  | envelope =>
      let error := envelope.property "error"
      .apiError status (orFallback (optionalProperty error "code") "HTTP_ERROR")
        (orFallback (optionalProperty error "message") "Request failed")
        (optionalProperty error "requestId")

def validated (attempt : Nat) (value : Json) : Except (Thrown Reason) (Returned Value) :=
  match options.validate with
  | none => .ok (.unchecked value)
  | some validate => ((validate attempt value).map .validated).mapError .failure

def answered (attempt : Nat) (response : Response Reason) :
    Except (Thrown Reason) (Returned Value) :=
  match if response.status = 204 then .ok .null else response.json with
  | .error reason => .error (.failure reason)
  | .ok value =>
      if response.ok then options.validated attempt value
      else .error (responseError response.status value)

def fetchOutcome (attempt : Nat) (fetched : Except Reason (Response Reason)) :
    Except (Thrown Reason) (Returned Value) :=
  match fetched with
  | .error reason => .error (.failure reason)
  | .ok response => options.answered attempt response

/-- The `try` block of one attempt. -/
def tryBlock (url : String) (attempt : Nat) (surroundings : Surroundings Body Reason) :
    List Event × Except (Thrown Reason) (Returned Value) :=
  match options.prepare url surroundings with
  | .error error => ([], .error error)
  | .ok request => ([.fetch request], options.fetchOutcome attempt surroundings.fetched)

/-- How an attempt ends: with the error of preparing its request, or as its
fetch does. -/
def outcome (url : String) (attempt : Nat) (surroundings : Surroundings Body Reason) :
    Except (Thrown Reason) (Returned Value) :=
  (options.prepare url surroundings).bind fun _ =>
    options.fetchOutcome attempt surroundings.fetched

end RequestOptions

/-- `Math.min(1000, 100 * 2 ** (attempt - 1)) + Math.floor(Math.random() * 75)`. -/
def retryWaitMs (attempt : Nat) (random : Random) : Int :=
  min 1000 (100 * 2 ^ (attempt - 1)) + (random.val * 75).floor

/-- The loop over the attempts, which are counted from 1. -/
def requestLoop (url : String) (options : RequestOptions Body Reason Value)
    (surroundings : Nat → Surroundings Body Reason) :
    RetryLoop Event (Returned Value) (Thrown Reason) where
  attempt attempt := options.tryBlock url attempt (surroundings attempt)
  giveUp attempt _ := decide ((attempt : Int) = options.attempts) || !options.mayRetry
  pause attempt := .wait (retryWaitMs attempt (surroundings attempt).random)

def request (baseUrl path : String) (options : RequestOptions Body Reason Value)
    (surroundings : Nat → Surroundings Body Reason) :
    List Event × Except (Thrown Reason) (Returned Value) :=
  (requestLoop (baseUrl ++ path) options surroundings).runFrom options.attempts.toNat 1 .undefined

def Event.fetched : Event → Option Request
  | .fetch request => some request
  | .wait _ => none

def fetches (events : List Event) : List Request :=
  events.filterMap Event.fetched

/-! ## One attempt -/

section Attempt

variable {options : RequestOptions Body Reason Value} {url : String} {attempt : Nat}
  {surroundings : Surroundings Body Reason}

theorem fetches_tryBlock :
    fetches (options.tryBlock url attempt surroundings).1 =
      (options.prepare url surroundings).toOption.toList := by
  rw [RequestOptions.tryBlock]
  cases options.prepare url surroundings with
  | error error => rfl
  | ok sent => rfl

theorem tryBlock_snd :
    (options.tryBlock url attempt surroundings).2 = options.outcome url attempt surroundings := by
  rw [RequestOptions.tryBlock, RequestOptions.outcome]
  cases options.prepare url surroundings with
  | error error => rfl
  | ok sent => rfl

theorem lookup_headerOf (name : String) (value : Option String) :
    (headerOf name value).lookup name = value.filter (· ≠ "") := by
  rw [headerOf]
  cases value.filter (· ≠ "") with
  | none => rfl
  | some given => simp

theorem lookup_headerOf_of_ne {name other : String} (different : other ≠ name)
    (value : Option String) : (headerOf name value).lookup other = none := by
  rw [headerOf]
  cases value.filter (· ≠ "") with
  | none => rfl
  | some given => simp [beq_eq_false_iff_ne.mpr different]

theorem lookup_csrfHeaders {method : Method} {document : Option String}
    {csrf : List (String × String)}
    (isCsrf : @csrfHeaders Reason method document = .ok csrf) :
    csrf.lookup "idempotency-key" = none := by
  rw [csrfHeaders] at isCsrf
  split at isCsrf
  · cases isToken : @csrfTokenFromDocument Reason document with
    | error error =>
        rw [isToken] at isCsrf
        cases isCsrf
    | ok token =>
        rw [isToken] at isCsrf
        cases isCsrf
        exact lookup_headerOf_of_ne (by decide) token
  · cases isCsrf
    rfl

theorem lookup_headers {csrf : List (String × String)}
    (noKey : csrf.lookup "idempotency-key" = none) :
    (options.headers csrf).lookup "idempotency-key" = options.givenKey := by
  have contentType : (options.headers csrf).lookup "idempotency-key" =
      (csrf ++ headerOf "idempotency-key" options.idempotencyKey).lookup "idempotency-key" := rfl
  rw [contentType, List.lookup_append, noKey, Option.none_or, lookup_headerOf]
  rfl

/-- A request carries the key of its options. -/
theorem lookup_of_prepare {sent : Request}
    (isPrepared : options.prepare url surroundings = .ok sent) :
    sent.headers.lookup "idempotency-key" = options.givenKey := by
  rw [RequestOptions.prepare] at isPrepared
  cases isCsrf : @csrfHeaders Reason options.methodOrGet surroundings.document with
  | error error =>
      rw [isCsrf] at isPrepared
      cases isPrepared
  | ok csrf =>
      rw [isCsrf] at isPrepared
      cases isBody : options.serializedBody surroundings.stringify with
      | error error =>
          rw [isBody] at isPrepared
          cases isPrepared
      | ok body =>
          rw [isBody] at isPrepared
          cases isPrepared
          exact lookup_headers (lookup_csrfHeaders isCsrf)

end Attempt

/-! ## All attempts -/

section Attempts

variable {options : RequestOptions Body Reason Value} {url : String}
  {surroundings : Nat → Surroundings Body Reason}

theorem stops_iff (attempt : Nat) :
    (requestLoop url options surroundings).Stops attempt ↔
      (∃ returned, options.outcome url attempt (surroundings attempt) = .ok returned) ∨
        (attempt : Int) = options.attempts ∨ options.mayRetry = false := by
  cases isOutcome : options.outcome url attempt (surroundings attempt) with
  | ok returned => simp [RetryLoop.Stops, requestLoop, tryBlock_snd, isOutcome]
  | error error => simp [RetryLoop.Stops, requestLoop, tryBlock_snd, isOutcome]

theorem fetches_events (count : Nat) :
    fetches ((requestLoop url options surroundings).events 1 count) =
      (List.range' 1 (count + 1)).filterMap fun attempt =>
        (options.prepare url (surroundings attempt)).toOption := by
  have noPause : ∀ attempt, Event.fetched ((requestLoop url options surroundings).pause attempt) =
      none := by
    intro attempt
    rfl
  rw [fetches, RetryLoop.filterMap_events noPause, List.filterMap_eq_flatMap_toList]
  refine List.flatMap_congr ?_
  intro attempt _member
  exact fetches_tryBlock

theorem attempts_eq : options.attempts = 1 + max 0 (options.retries.getD 0) := by
  rw [RequestOptions.attempts]
  omega

/-- The loop ends with the first attempt that succeeds or that no other may
follow. -/
theorem request_ends (baseUrl path : String) :
    ∃ count : Nat, ((1 + count : Nat) : Int) ≤ options.attempts ∧
      IsLeast
        {index | (requestLoop (baseUrl ++ path) options surroundings).Stops (1 + index)} count ∧
      request baseUrl path options surroundings =
        ((requestLoop (baseUrl ++ path) options surroundings).events 1 count,
          options.outcome (baseUrl ++ path) (1 + count) (surroundings (1 + count))) := by
  have atLeastOne : 1 ≤ options.attempts := le_max_left _ _
  have positive : 0 < options.attempts.toNat := by omega
  have lastAttempt : ((1 + (options.attempts.toNat - 1) : Nat) : Int) = options.attempts := by
    omega
  have lastStops : (requestLoop (baseUrl ++ path) options surroundings).Stops
      (1 + (options.attempts.toNat - 1)) :=
    (stops_iff _).mpr (Or.inr (Or.inl lastAttempt))
  obtain ⟨count, inside, least, isRun⟩ :=
    RetryLoop.runFrom_of_last_stops positive lastStops .undefined
  refine ⟨count, by omega, least, ?_⟩
  rw [request, isRun, ← tryBlock_snd]
  rfl

/-- With a method that is not safe to repeat and without a key the first
attempt is the last. -/
theorem mayRetry_eq_false {options : RequestOptions Body Reason Value}
    (isMutation : options.methodOrGet = .post ∨ options.methodOrGet = .patch)
    (noKey : options.givenKey = none) : options.mayRetry = false := by
  rw [RequestOptions.mayRetry, noKey]
  rcases isMutation with isPost | isPatch
  · rw [isPost]
    rfl
  · rw [isPatch]
    rfl

/-- Every request of some attempts carries the key. -/
theorem lookup_of_mem_prepared {attempts : List Nat} {sent : Request}
    (member : sent ∈ attempts.filterMap fun attempt =>
      (options.prepare url (surroundings attempt)).toOption) :
    sent.headers.lookup "idempotency-key" = options.givenKey := by
  obtain ⟨attempt, _isAttempt, isSent⟩ := List.mem_filterMap.mp member
  cases isPrepared : options.prepare url (surroundings attempt) with
  | error error =>
      rw [isPrepared] at isSent
      cases isSent
  | ok prepared =>
      rw [isPrepared] at isSent
      obtain rfl := Option.some.inj isSent
      exact lookup_of_prepare isPrepared

theorem eq_zero_of_noRetry {count : Nat}
    (least : IsLeast {index | (requestLoop url options surroundings).Stops (1 + index)} count)
    (noRetry : options.mayRetry = false) : count = 0 := by
  have firstStops : (requestLoop url options surroundings).Stops (1 + 0) :=
    (stops_iff 1).mpr (Or.inr (Or.inr noRetry))
  exact Nat.le_zero.mp (least.2 firstStops)

/-- One attempt sends one request if it can be prepared. -/
theorem length_prepared_once :
    ((List.range' 1 1).filterMap fun attempt =>
      (options.prepare url (surroundings attempt)).toOption).length =
        if (options.prepare url (surroundings 1)).isOk then 1 else 0 := by
  cases isPrepared : options.prepare url (surroundings 1) with
  | error error => simp [isPrepared, Except.toOption, Except.isOk, Except.toBool]
  | ok sent => simp [isPrepared, Except.toOption, Except.isOk, Except.toBool]

/-- What `request` sends and how it ends: it makes one attempt after another
up to the first that succeeds, only the first one of a mutation without a key,
and no more than `1 + max(0, retries)`. -/
theorem request_fetches_and_settles (baseUrl path : String)
    (options : RequestOptions Body Reason Value)
    (surroundings : Nat → Surroundings Body Reason) :
    ((fetches (request baseUrl path options surroundings).1).length : Int) ≤
        1 + max 0 (options.retries.getD 0) ∧
      (options.methodOrGet = .post ∨ options.methodOrGet = .patch → options.givenKey = none →
        (fetches (request baseUrl path options surroundings).1).length =
          if (options.prepare (baseUrl ++ path) (surroundings 1)).isOk then 1 else 0) ∧
      (∀ sent ∈ fetches (request baseUrl path options surroundings).1,
        sent.headers.lookup "idempotency-key" = options.givenKey) ∧
      ∃ made : Nat, 1 ≤ made ∧ (made : Int) ≤ 1 + max 0 (options.retries.getD 0) ∧
        fetches (request baseUrl path options surroundings).1 =
          (List.range' 1 made).filterMap (fun attempt =>
            (options.prepare (baseUrl ++ path) (surroundings attempt)).toOption) ∧
        (∀ earlier, 1 ≤ earlier → earlier < made → ∃ error,
          options.outcome (baseUrl ++ path) earlier (surroundings earlier) = .error error) ∧
        (request baseUrl path options surroundings).2 =
          options.outcome (baseUrl ++ path) made (surroundings made) ∧
        (options.mayRetry = false → made = 1) ∧
        (options.mayRetry = true →
          (∃ error, (request baseUrl path options surroundings).2 = .error error) →
            (made : Int) = 1 + max 0 (options.retries.getD 0)) := by
  obtain ⟨count, inside, least, isRun⟩ := @request_ends _ _ _ options surroundings baseUrl path
  rw [isRun, fetches_events, ← attempts_eq]
  have stops := (stops_iff (1 + count)).mp least.1
  refine ⟨?_, ?_, ?_, 1 + count, Nat.le_add_right _ _, inside, ?_, ?_, rfl, ?_, ?_⟩
  · have atMost := List.length_filterMap_le
      (fun attempt => (options.prepare (baseUrl ++ path) (surroundings attempt)).toOption)
      (List.range' 1 (count + 1))
    rw [List.length_range'] at atMost
    omega
  · intro isMutation noKey
    obtain rfl := eq_zero_of_noRetry least (mayRetry_eq_false isMutation noKey)
    exact length_prepared_once
  · intro sent member
    exact lookup_of_mem_prepared member
  · rw [Nat.add_comm]
  · intro earlier positive before
    obtain ⟨index, rfl⟩ := Nat.exists_eq_add_of_le positive
    obtain ⟨error, failed⟩ := RetryLoop.failed_of_isLeast least (Nat.lt_of_add_lt_add_left before)
    exact ⟨error, tryBlock_snd.symm.trans failed⟩
  · intro noRetry
    rw [eq_zero_of_noRetry least noRetry]
  · rintro mayRetry ⟨error, failed⟩
    rcases stops with ⟨returned, succeeded⟩ | isLast | noRetry
    · have contradictory := succeeded.symm.trans failed
      cases contradictory
    · exact isLast
    · rw [mayRetry] at noRetry
      cases noRetry

/-- A `POST` with the body `1n`. -/
def bigintPost : RequestOptions Int String Json :=
  ⟨some .post, some 1, none, none, none⟩

def whereBigintThrows (_attempt : Nat) : Surroundings Int String :=
  ⟨none, fun _ => .error "Do not know how to serialize a BigInt", .ok ⟨201, .ok .null⟩,
    ⟨0, le_refl 0, zero_lt_one⟩⟩

/-- A `POST` without a body. -/
def emptyPost : RequestOptions Int String Json :=
  ⟨some .post, none, none, none, none⟩

def whereCookieIsBroken (_attempt : Nat) : Surroundings Int String :=
  ⟨some "theme=dark; __Host-csrf=%", fun _ => .ok none, .ok ⟨201, .ok .null⟩,
    ⟨0, le_refl 0, zero_lt_one⟩⟩

/-- Neither `POST` has a key, and neither is sent. -/
theorem request_post_without_fetch :
    (bigintPost.methodOrGet = .post ∧ bigintPost.givenKey = none ∧
        (fetches (request "" "/v1/resources" bigintPost whereBigintThrows).1).length = 0 ∧
        (request "" "/v1/resources" bigintPost whereBigintThrows).2 =
          .error (.failure "Do not know how to serialize a BigInt")) ∧
      emptyPost.methodOrGet = .post ∧ emptyPost.givenKey = none ∧
        (fetches (request "" "/v1/resources" emptyPost whereCookieIsBroken).1).length = 0 ∧
        (request "" "/v1/resources" emptyPost whereCookieIsBroken).2 = .error .uriError :=
  ⟨⟨rfl, rfl, rfl, rfl⟩, rfl, rfl, rfl, rfl⟩

end Attempts

end PlatformArchitecture.Web.ApiClient
