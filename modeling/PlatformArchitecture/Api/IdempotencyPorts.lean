import PlatformArchitecture.Foundations.RedisKeys
import PlatformArchitecture.Foundations.Run
import PlatformArchitecture.Foundations.TtlMap

/-!
# Idempotency ports

Three adapters keep idempotency records: a map in memory, Redis and PostgreSQL.
They are compared with a map whose records expire, over every history of calls
on one clock, in milliseconds.  Whether Redis still has a record in the very
millisecond of its deadline is left open for every call.
-/

namespace PlatformArchitecture.Api

open PlatformArchitecture.Foundations

/-- What a call returns to its caller, if it does not throw. -/
inductive PortResult (Value : Type) where
  | found (value : Option Value)
  | stored (isNew : Bool)
  | thrown

/-- The time of a call; `lingers` says whether Redis still serves a key with
just this deadline. -/
structure Instant where
  now : Nat
  lingers : Bool

/-- `IdempotencyPort`, as calls at an instant on a store. -/
structure IdempotencyPort (Value : Type) where
  Store : Type
  empty : Store
  get : Instant → String → Store → PortResult Value × Store
  putIfAbsent : Instant → String → Value → Nat → Store → PortResult Value × Store

variable {Value : Type}

/-! ## The adapters -/

/-- The limits that the stores set.  They belong to the stores; nothing is
assumed about them. -/
structure StoreLimits where
  /-- A `text` column takes the key. -/
  textKey : String → Bool
  /-- A `timestamptz` column takes the instant. -/
  timestamp : Nat → Bool
  /-- `EX` takes the seconds at a time. -/
  expireSeconds : Nat → Nat → Bool

/-- A map whose records expire, as a port. -/
def ttlMapPort : IdempotencyPort Value where
  Store := TtlMap String Value
  empty := TtlMap.empty
  get instant key records := (.found (records.get instant.now key), records)
  putIfAbsent instant key value ttlSeconds records :=
    let put := records.putIfAbsent instant.now key ⟨value, instant.now + ttlSeconds * 1000⟩
    (.stored put.1, put.2)

/-- `MemoryIdempotencyPort`: an expired entry is deleted when it is met. -/
def memoryIdempotencyPort : IdempotencyPort Value where
  Store := TtlMap String Value
  empty := TtlMap.empty
  get instant key entries :=
    match entries key with
    | none => (.found none, entries)
    | some entry =>
        if entry.expiresAt ≤ instant.now then (.found none, Function.update entries key none)
        else (.found (some entry.value), entries)
  putIfAbsent instant key value ttlSeconds entries :=
    if (entries key).any fun current => instant.now < current.expiresAt then
      (.stored false, entries)
    else
      let entries := Function.update entries key none
      (.stored true, Function.update entries key (some ⟨value, instant.now + ttlSeconds * 1000⟩))

/-- The record that Redis serves under a key at an instant. -/
def servedRecord (instant : Instant) (redisKey : String) (records : TtlMap String Value) :
    Option (TtlRecord Value) :=
  (records redisKey).filter fun record =>
    keyServed instant.lingers instant.now (some record.expiresAt)

/-- `RedisIdempotencyAdapter`, over `GET` and `SET NX EX`: Redis does not show
keys whose time has passed. -/
def redisIdempotencyAdapter (limits : StoreLimits) : IdempotencyPort Value where
  Store := TtlMap String Value
  empty := TtlMap.empty
  get instant key records :=
    (.found ((servedRecord instant ("idem:" ++ key) records).map TtlRecord.value), records)
  putIfAbsent instant key value ttlSeconds records :=
    if limits.expireSeconds instant.now ttlSeconds then
      match servedRecord instant ("idem:" ++ key) records with
      | some _ => (.stored false, records)
      | none =>
          (.stored true,
            Function.update records ("idem:" ++ key)
              (some ⟨value, instant.now + ttlSeconds * 1000⟩))
    else
      (.thrown, records)

/-- `PostgresIdempotencyAdapter`: the rows of `idempotency_keys` by their
primary key.  `ON CONFLICT DO NOTHING` keeps any row that has the key. -/
def postgresIdempotencyAdapter (limits : StoreLimits) : IdempotencyPort Value where
  Store := TtlMap String Value
  empty := TtlMap.empty
  get instant key rows :=
    if limits.textKey key then (.found ((live instant.now (rows key)).map TtlRecord.value), rows)
    else (.thrown, rows)
  putIfAbsent instant key value ttlSeconds rows :=
    let expiresAt := instant.now + ttlSeconds * 1000
    if limits.textKey key && limits.timestamp expiresAt then
      match rows key with
      | some _ => (.stored false, rows)
      | none => (.stored true, Function.update rows key (some ⟨value, expiresAt⟩))
    else
      (.thrown, rows)

/-! ## Histories of calls -/

/-- A call of the port; a time to live is positive. -/
inductive PortRequest (Value : Type) where
  | get (key : String)
  | putIfAbsent (key : String) (value : Value) (ttlSeconds : { ttl : Nat // 0 < ttl })

/-- A call some time after the one before it. -/
structure TimedCall (Value : Type) where
  elapsed : Nat
  lingers : Bool
  request : PortRequest Value

def TimedCall.instant (call : TimedCall Value) (clock : Nat) : Instant :=
  ⟨clock + call.elapsed, call.lingers⟩

namespace IdempotencyPort

def execute (port : IdempotencyPort Value) (instant : Instant) (request : PortRequest Value)
    (store : port.Store) : PortResult Value × port.Store :=
  match request with
  | .get key => port.get instant key store
  | .putIfAbsent key value ttlSeconds => port.putIfAbsent instant key value ttlSeconds store

/-- The clock and the store after a call. -/
def step (port : IdempotencyPort Value) (state : Nat × port.Store) (call : TimedCall Value) :
    Nat × port.Store :=
  (state.1 + call.elapsed, (port.execute (call.instant state.1) call.request state.2).2)

/-- The results of a history, in order. -/
def results (port : IdempotencyPort Value) (state : Nat × port.Store) :
    List (TimedCall Value) → List (PortResult Value)
  | [] => []
  | call :: rest =>
      (port.execute (call.instant state.1) call.request state.2).1 ::
        port.results (port.step state call) rest

end IdempotencyPort

/-! ## One adapter against the map -/

section Simulation

variable {port : IdempotencyPort Value}

/-- An adapter that answers as the map exactly on the calls it serves, and then
keeps the same live records, gives the results of the map exactly on the
histories whose every call it serves. -/
theorem results_eq_iff {view : port.Store → TtlMap String Value}
    {serves : Nat × port.Store → TimedCall Value → Prop}
    (answers : ∀ clock store map call,
      TtlMap.SameAt (clock + call.elapsed) (view store) map →
        ((port.execute (call.instant clock) call.request store).1 =
          (ttlMapPort.execute (call.instant clock) call.request map).1 ↔
            serves (clock, store) call))
    (keeps : ∀ clock store map call,
      TtlMap.SameAt (clock + call.elapsed) (view store) map →
        serves (clock, store) call →
          TtlMap.SameAt (clock + call.elapsed)
            (view (port.execute (call.instant clock) call.request store).2)
            (ttlMapPort.execute (call.instant clock) call.request map).2) :
    ∀ (calls : List (TimedCall Value)) (clock : Nat) (store : port.Store)
      (map : TtlMap String Value), TtlMap.SameAt clock (view store) map →
        (port.results (clock, store) calls = ttlMapPort.results (clock, map) calls ↔
          EveryStep port.step serves (clock, store) calls) := by
  intro calls
  induction calls with
  | nil =>
      intro clock store map _same
      exact iff_of_true rfl trivial
  | cons call rest inductionHypothesis =>
      intro clock store map same
      have now := same.mono (Nat.le_add_right clock call.elapsed)
      have sameAnswer := answers clock store map call now
      unfold IdempotencyPort.results
      rw [List.cons_eq_cons]
      constructor
      · intro sameResults
        have served := sameAnswer.mp sameResults.1
        have later := keeps clock store map call now served
        exact ⟨served, (inductionHypothesis _ _ _ later).mp sameResults.2⟩
      · intro every
        have later := keeps clock store map call now every.1
        exact ⟨sameAnswer.mpr every.1, (inductionHypothesis _ _ _ later).mpr every.2⟩

end Simulation

/-! ## Memory -/

section Memory

variable {instant : Instant} {entries map : TtlMap String Value}

theorem memory_get (same : TtlMap.SameAt instant.now entries map) (key : String) :
    (memoryIdempotencyPort.get instant key entries).1 = .found (map.get instant.now key) ∧
      TtlMap.SameAt instant.now (memoryIdempotencyPort.get instant key entries).2 map := by
  unfold memoryIdempotencyPort TtlMap.get
  dsimp only
  rw [← same key]
  cases isEntry : entries key with
  | none => exact ⟨rfl, same⟩
  | some entry =>
      by_cases expired : entry.expiresAt ≤ instant.now
      · have isAbsent : live instant.now (entries key) = none := by
          rw [isEntry]
          exact live_of_expired expired
        simp only [if_pos expired, live_of_expired expired]
        exact ⟨rfl, same.forget isAbsent⟩
      · have unexpired : instant.now < entry.expiresAt := Nat.lt_of_not_le expired
        simp only [if_neg expired, live_of_unexpired unexpired]
        exact ⟨rfl, same⟩

theorem memory_putIfAbsent (same : TtlMap.SameAt instant.now entries map) (key : String)
    (value : Value)
    (ttlSeconds : Nat) :
    (memoryIdempotencyPort.putIfAbsent instant key value ttlSeconds entries).1 =
        (ttlMapPort.putIfAbsent instant key value ttlSeconds map).1 ∧
      TtlMap.SameAt instant.now
        (memoryIdempotencyPort.putIfAbsent instant key value ttlSeconds entries).2
        (ttlMapPort.putIfAbsent instant key value ttlSeconds map).2 := by
  unfold memoryIdempotencyPort ttlMapPort
  dsimp only
  by_cases held : (entries key).any fun current => instant.now < current.expiresAt
  · obtain ⟨current, isCurrent, unexpired⟩ := (Option.any_eq_true _ _).mp held
    have isLive : live instant.now (map key) = some current := by
      rw [← same key, isCurrent]
      exact live_of_unexpired (of_decide_eq_true unexpired)
    rw [if_pos held, TtlMap.putIfAbsent_of_live isLive]
    exact ⟨rfl, same⟩
  · have isAbsent : live instant.now (entries key) = none := by
      cases isEntry : entries key with
      | none => rfl
      | some entry =>
          rw [isEntry] at held
          exact live_of_expired (Nat.le_of_not_lt (by simpa using held))
    rw [if_neg held, TtlMap.putIfAbsent_of_absent ((same key).symm.trans isAbsent),
      Function.update_idem]
    exact ⟨rfl, same.update key _⟩

/-- The map in memory gives the results of the map on every history. -/
theorem memory_results (calls : List (TimedCall Value)) (clock : Nat)
    (same : TtlMap.SameAt clock entries map) :
    memoryIdempotencyPort.results (clock, entries) calls =
      ttlMapPort.results (clock, map) calls := by
  have always : EveryStep memoryIdempotencyPort.step (fun _ (_ : TimedCall Value) => True)
      (clock, entries) calls :=
    everyStep_of_forall (fun _ _ => trivial) (clock, entries) calls
  refine (@results_eq_iff _ memoryIdempotencyPort id (fun _ _ => True) ?_ ?_ calls clock entries
    map same).mpr always
  · intro clock store map call now
    refine iff_of_true ?_ trivial
    cases call.request with
    | get key => exact (memory_get now key).1
    | putIfAbsent key value ttlSeconds => exact (memory_putIfAbsent now key value ttlSeconds).1
  · intro clock store map call now _served
    cases call.request with
    | get key => exact (memory_get now key).2
    | putIfAbsent key value ttlSeconds => exact (memory_putIfAbsent now key value ttlSeconds).2

end Memory

/-! ## Redis -/

section Redis

variable {limits : StoreLimits} {instant : Instant} {records map : TtlMap String Value}

/-- The records by the key of the port. -/
def redisRecords (records : TtlMap String Value) : TtlMap String Value :=
  fun key => records ("idem:" ++ key)

theorem redisRecords_update (records : TtlMap String Value) (key : String)
    (cell : Option (TtlRecord Value)) :
    redisRecords (Function.update records ("idem:" ++ key) cell) =
      Function.update (redisRecords records) key cell := by
  funext other
  unfold redisRecords
  by_cases isKey : other = key
  · subst isKey
    rw [Function.update_self, Function.update_self]
  · have different : "idem:" ++ other ≠ "idem:" ++ key :=
      fun same => isKey (String.append_right_inj _ |>.mp same)
    rw [Function.update_of_ne different, Function.update_of_ne isKey]

/-- No record lingers in the millisecond of its deadline. -/
def AwayFromDeadline (instant : Instant) (cell : Option (TtlRecord Value)) : Prop :=
  instant.lingers = true → ∀ record, cell = some record → record.expiresAt ≠ instant.now

/-- Outside the millisecond of the deadline Redis serves the live record. -/
theorem servedRecord_of_apart {key : String}
    (apart : AwayFromDeadline instant (records ("idem:" ++ key))) :
    servedRecord instant ("idem:" ++ key) records =
      live instant.now (redisRecords records key) := by
  unfold servedRecord redisRecords live
  cases isRecord : records ("idem:" ++ key) with
  | none => rfl
  | some record =>
      have sameServed : keyServed instant.lingers instant.now (some record.expiresAt) =
          decide (instant.now < record.expiresAt) := by
        rw [keyServed_of_apart]
        · simp only [keyServed, Bool.false_and, Bool.or_false]
        · intro lingers atDeadline
          exact apart lingers record isRecord (Option.some.inj atDeadline)
      rw [Option.filter_some, Option.filter_some, sameServed]

/-- A record that lingers is served although it is not live any more. -/
theorem servedRecord_of_lingering {key : String} {record : TtlRecord Value}
    (lingers : instant.lingers = true) (isRecord : records ("idem:" ++ key) = some record)
    (atDeadline : record.expiresAt = instant.now) :
    servedRecord instant ("idem:" ++ key) records = some record ∧
      live instant.now (redisRecords records key) = none := by
  unfold servedRecord redisRecords
  rw [isRecord]
  refine ⟨Option.filter_some_pos (keyServed_some.mpr (Or.inr ⟨lingers, atDeadline.symm⟩)), ?_⟩
  exact live_of_expired (Nat.le_of_eq atDeadline)

theorem redis_get_iff (same : TtlMap.SameAt instant.now (redisRecords records) map)
    (key : String) :
    ((redisIdempotencyAdapter limits).get instant key records).1 =
        (ttlMapPort.get instant key map).1 ↔
      AwayFromDeadline instant (records ("idem:" ++ key)) := by
  unfold redisIdempotencyAdapter ttlMapPort TtlMap.get
  dsimp only
  constructor
  · intro sameAnswer lingers record isRecord atDeadline
    obtain ⟨isServed, notLive⟩ := servedRecord_of_lingering lingers isRecord atDeadline
    rw [isServed, ← same key, notLive] at sameAnswer
    cases sameAnswer
  · intro apart
    rw [servedRecord_of_apart apart, same key]

theorem redis_putIfAbsent (same : TtlMap.SameAt instant.now (redisRecords records) map)
    {key : String} (apart : AwayFromDeadline instant (records ("idem:" ++ key)))
    (value : Value) {ttlSeconds : Nat}
    (taken : limits.expireSeconds instant.now ttlSeconds = true) :
    ((redisIdempotencyAdapter limits).putIfAbsent instant key value ttlSeconds records).1 =
        (ttlMapPort.putIfAbsent instant key value ttlSeconds map).1 ∧
      TtlMap.SameAt instant.now
        (redisRecords
          ((redisIdempotencyAdapter limits).putIfAbsent instant key value ttlSeconds records).2)
        (ttlMapPort.putIfAbsent instant key value ttlSeconds map).2 := by
  unfold redisIdempotencyAdapter ttlMapPort
  dsimp only
  rw [if_pos taken, servedRecord_of_apart apart, same key]
  cases isLive : live instant.now (map key) with
  | some held =>
      rw [TtlMap.putIfAbsent_of_live isLive]
      exact ⟨rfl, same⟩
  | none =>
      rw [TtlMap.putIfAbsent_of_absent isLive]
      dsimp only
      rw [redisRecords_update]
      exact ⟨rfl, same.update key _⟩

/-- Where the answers agree, the time to live was taken and no record lingered. -/
theorem served_of_redis_putIfAbsent
    (same : TtlMap.SameAt instant.now (redisRecords records) map) {key : String}
    {value : Value} {ttlSeconds : Nat}
    (sameAnswer :
      ((redisIdempotencyAdapter limits).putIfAbsent instant key value ttlSeconds records).1 =
        (ttlMapPort.putIfAbsent instant key value ttlSeconds map).1) :
    limits.expireSeconds instant.now ttlSeconds = true ∧
      AwayFromDeadline instant (records ("idem:" ++ key)) := by
  unfold redisIdempotencyAdapter ttlMapPort at sameAnswer
  dsimp only at sameAnswer
  by_cases taken : limits.expireSeconds instant.now ttlSeconds = true
  · refine ⟨taken, ?_⟩
    intro lingers record isRecord atDeadline
    obtain ⟨isServed, notLive⟩ := servedRecord_of_lingering lingers isRecord atDeadline
    have absent : live instant.now (map key) = none := (same key).symm.trans notLive
    rw [if_pos taken, isServed, TtlMap.putIfAbsent_of_absent absent] at sameAnswer
    cases sameAnswer
  · rw [if_neg taken] at sameAnswer
    cases sameAnswer

/-- Redis serves a call unless it refuses the time to live, or the call comes in
the millisecond of a deadline and finds the record still there. -/
def redisServes (limits : StoreLimits) (state : Nat × TtlMap String Value)
    (call : TimedCall Value) : Prop :=
  match call.request with
  | .get key => AwayFromDeadline (call.instant state.1) (state.2 ("idem:" ++ key))
  | .putIfAbsent key _ ttlSeconds =>
      limits.expireSeconds (call.instant state.1).now ttlSeconds = true ∧
        AwayFromDeadline (call.instant state.1) (state.2 ("idem:" ++ key))

theorem redis_results_iff (limits : StoreLimits) (calls : List (TimedCall Value)) (clock : Nat)
    (same : TtlMap.SameAt clock (redisRecords records) map) :
    (redisIdempotencyAdapter limits).results (clock, records) calls =
        ttlMapPort.results (clock, map) calls ↔
      EveryStep (redisIdempotencyAdapter limits).step (redisServes limits)
        (clock, records) calls := by
  refine @results_eq_iff _ (redisIdempotencyAdapter limits) redisRecords (redisServes limits)
    ?_ ?_ calls clock records map same
  · intro clock store map call now
    unfold redisServes
    cases call.request with
    | get key => exact @redis_get_iff _ limits (call.instant clock) _ _ now key
    | putIfAbsent key value ttlSeconds =>
        constructor
        · intro sameAnswer
          exact @served_of_redis_putIfAbsent _ limits (call.instant clock) _ _ now _ _ _ sameAnswer
        · intro served
          exact (@redis_putIfAbsent _ limits (call.instant clock) _ _ now _ served.2 value _
            served.1).1
  · intro clock store map call now served
    unfold redisServes at served
    cases isRequest : call.request with
    | get key => exact now
    | putIfAbsent key value ttlSeconds =>
        rw [isRequest] at served
        exact (@redis_putIfAbsent _ limits (call.instant clock) _ _ now _ served.2 value _
          served.1).2

end Redis

/-! ## PostgreSQL -/

section Postgres

variable {limits : StoreLimits} {instant : Instant} {rows map : TtlMap String Value} {key : String}

/-- The row under a key, if there is one, has not expired. -/
def RowLive (now : Nat) (rows : TtlMap String Value) (key : String) : Prop :=
  ∀ row, rows key = some row → now < row.expiresAt

/-- PostgreSQL serves a call unless it refuses the key or the deadline, or meets
an expired row that keeps a new one out. -/
def postgresServes (limits : StoreLimits) (state : Nat × TtlMap String Value)
    (call : TimedCall Value) : Prop :=
  match call.request with
  | .get key => limits.textKey key
  | .putIfAbsent key _ ttlSeconds =>
      limits.textKey key ∧ limits.timestamp (state.1 + call.elapsed + ttlSeconds * 1000) ∧
        RowLive (state.1 + call.elapsed) state.2 key

theorem postgres_get (same : TtlMap.SameAt instant.now rows map) :
    ((postgresIdempotencyAdapter limits).get instant key rows).1 =
      (ttlMapPort.get instant key map).1 ↔ limits.textKey key := by
  unfold postgresIdempotencyAdapter ttlMapPort TtlMap.get
  dsimp only
  rw [← same key]
  by_cases taken : limits.textKey key
  · rw [if_pos taken]
    exact iff_of_true rfl taken
  · rw [if_neg taken]
    exact iff_of_false (fun same => by cases same) taken

theorem postgres_get_store (same : TtlMap.SameAt instant.now rows map) :
    TtlMap.SameAt instant.now ((postgresIdempotencyAdapter limits).get instant key rows).2 map := by
  unfold postgresIdempotencyAdapter
  dsimp only
  split
  · exact same
  · exact same

/-- A row is inserted where there is none, and a live one keeps the new one out,
as the map does. -/
theorem postgres_putIfAbsent (same : TtlMap.SameAt instant.now rows map) (value : Value)
    (ttlSeconds : Nat) (takesKey : limits.textKey key)
    (takesDeadline : limits.timestamp (instant.now + ttlSeconds * 1000))
    (rowLive : RowLive instant.now rows key) :
    ((postgresIdempotencyAdapter limits).putIfAbsent instant key value ttlSeconds rows).1 =
        (ttlMapPort.putIfAbsent instant key value ttlSeconds map).1 ∧
      TtlMap.SameAt instant.now
        ((postgresIdempotencyAdapter limits).putIfAbsent instant key value ttlSeconds rows).2
        (ttlMapPort.putIfAbsent instant key value ttlSeconds map).2 := by
  unfold postgresIdempotencyAdapter ttlMapPort
  dsimp only
  rw [takesKey, takesDeadline, Bool.and_self, if_pos rfl]
  cases isRow : rows key with
  | none =>
      have isAbsent : live instant.now (map key) = none := by
        rw [← same key, isRow, live_none]
      rw [TtlMap.putIfAbsent_of_absent isAbsent]
      exact ⟨rfl, same.update key _⟩
  | some row =>
      have isLive : live instant.now (map key) = some row := by
        rw [← same key, isRow]
        exact live_of_unexpired (rowLive row isRow)
      rw [TtlMap.putIfAbsent_of_live isLive]
      exact ⟨rfl, same⟩

/-- Where the answers agree, the key and the deadline were taken and no expired
row was met. -/
theorem served_of_postgres_putIfAbsent (same : TtlMap.SameAt instant.now rows map) {value : Value}
    {ttlSeconds : Nat}
    (sameAnswer :
      ((postgresIdempotencyAdapter limits).putIfAbsent instant key value ttlSeconds rows).1 =
        (ttlMapPort.putIfAbsent instant key value ttlSeconds map).1) :
    limits.textKey key ∧ limits.timestamp (instant.now + ttlSeconds * 1000) ∧
      RowLive instant.now rows key := by
  unfold postgresIdempotencyAdapter ttlMapPort at sameAnswer
  dsimp only at sameAnswer
  split at sameAnswer
  · next taken =>
    obtain ⟨takesKey, takesDeadline⟩ := Bool.and_eq_true_iff.mp taken
    refine ⟨takesKey, takesDeadline, ?_⟩
    intro row isRow
    by_contra expired
    have isAbsent : live instant.now (map key) = none := by
      rw [← same key, isRow]
      exact live_of_expired (Nat.le_of_not_lt expired)
    rw [isRow, TtlMap.putIfAbsent_of_absent isAbsent] at sameAnswer
    cases sameAnswer
  · cases sameAnswer

theorem postgres_results_iff (limits : StoreLimits) (calls : List (TimedCall Value)) (clock : Nat)
    (same : TtlMap.SameAt clock rows map) :
    (postgresIdempotencyAdapter limits).results (clock, rows) calls =
        ttlMapPort.results (clock, map) calls ↔
      EveryStep (postgresIdempotencyAdapter limits).step (postgresServes limits)
        (clock, rows) calls := by
  refine @results_eq_iff _ (postgresIdempotencyAdapter limits) id (postgresServes limits) ?_ ?_
    calls clock rows map same
  · intro clock store map call now
    unfold postgresServes
    cases call.request with
    | get key => exact @postgres_get _ limits (call.instant clock) _ _ _ now
    | putIfAbsent key value ttlSeconds =>
        constructor
        · exact @served_of_postgres_putIfAbsent _ limits (call.instant clock) _ _ _ now _ _
        · intro served
          exact (@postgres_putIfAbsent _ limits (call.instant clock) _ _ _ now value ttlSeconds
            served.1 served.2.1 served.2.2).1
  · intro clock store map call now served
    unfold postgresServes at served
    cases isRequest : call.request with
    | get key => exact @postgres_get_store _ limits (call.instant clock) _ _ _ now
    | putIfAbsent key value ttlSeconds =>
        rw [isRequest] at served
        exact (@postgres_putIfAbsent _ limits (call.instant clock) _ _ _ now value ttlSeconds
          served.1 served.2.1 served.2.2).2

end Postgres

/-! ## The three adapters together -/

/-- The results of an adapter on a history that begins with an empty store. -/
def resultsOf (port : IdempotencyPort Value) (calls : List (TimedCall Value)) :
    List (PortResult Value) :=
  port.results (0, port.empty) calls

/-- The adapters give the same results: those of a map whose records expire. -/
structure SameResults (limits : StoreLimits) (calls : List (TimedCall Value)) : Prop where
  memory : resultsOf memoryIdempotencyPort calls = resultsOf ttlMapPort calls
  redis : resultsOf (redisIdempotencyAdapter limits) calls = resultsOf ttlMapPort calls
  postgres : resultsOf (postgresIdempotencyAdapter limits) calls = resultsOf ttlMapPort calls

/-- The adapters agree on a history exactly when the stores take the keys and
the times, no call finds a record of Redis in the millisecond of its deadline,
and no `putIfAbsent` meets an expired row in PostgreSQL. -/
theorem sameResults_iff (limits : StoreLimits) (calls : List (TimedCall Value)) :
    SameResults limits calls ↔
      EveryStep (redisIdempotencyAdapter limits).step (redisServes limits)
          (0, TtlMap.empty) calls ∧
        EveryStep (postgresIdempotencyAdapter limits).step (postgresServes limits)
          (0, TtlMap.empty) calls := by
  have same : TtlMap.SameAt 0 (TtlMap.empty : TtlMap String Value) TtlMap.empty := fun _ => rfl
  have memory := memory_results calls 0 same
  have redis := @redis_results_iff _ TtlMap.empty _ limits calls 0 same
  have postgres := postgres_results_iff limits calls 0 same
  constructor
  · intro sameResults
    exact ⟨redis.mp sameResults.redis, postgres.mp sameResults.postgres⟩
  · intro served
    exact ⟨memory, redis.mpr served.1, postgres.mpr served.2⟩

/-- Limits as the stores have them: a text holds no zero byte, and instants end
with the year 294276. -/
def documentedLimits : StoreLimits where
  textKey key := key.toList.all fun c => c ≠ Char.ofNat 0
  timestamp instant := instant < 9224318016000000
  expireSeconds := takesExpiry

/-- A key whose record has expired cannot be used again in PostgreSQL. -/
theorem expiredKeyNotReplaced :
    ¬ ∀ (limits : StoreLimits) (calls : List (TimedCall String)), SameResults limits calls := by
  intro sameResults
  have same := (sameResults documentedLimits
    [⟨0, false, .putIfAbsent "k" "first" ⟨1, by decide⟩⟩,
      ⟨2000, false, .putIfAbsent "k" "second" ⟨1, by decide⟩⟩]).postgres
  have differ : (.stored false : PortResult String) = .stored true :=
    List.head_eq_of_cons_eq (List.tail_eq_of_cons_eq same)
  cases differ

end PlatformArchitecture.Api
