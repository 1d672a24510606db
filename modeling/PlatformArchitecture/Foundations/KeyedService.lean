import Mathlib.Logic.Function.Basic
import Mathlib.Data.List.Basic

/-!
# Services that keep their keys apart

A keyed service holds one cell for each key, and answers an operation from
the cell of its key alone.  When several callers share one service and no two
of them ever use the same key, each caller gets the answers it would get if
the others were not there, whatever the interleaving.
-/

namespace PlatformArchitecture.Foundations

variable {Caller Key Cell Op Out Refusal : Type}

/-- A service that answers an operation on a key from that key's cell. -/
structure KeyedService (Cell Op Out : Type) where
  apply : Op → Cell → Out × Cell

/-- One operation by one caller. -/
structure Call (Caller Key Op : Type) where
  caller : Caller
  key : Key
  op : Op

/-- The answers one caller gets in an interleaved run, in order. -/
def observations [DecidableEq Caller] [DecidableEq Key]
    (service : KeyedService Cell Op Out) (observer : Caller) :
    (Key → Cell) → List (Call Caller Key Op) → List Out
  | _, [] => []
  | cells, call :: rest =>
      let answer := service.apply call.op (cells call.key)
      let later :=
        observations service observer
          (Function.update cells call.key answer.2) rest
      if call.caller = observer then answer.1 :: later else later

/-- The part of a run that one caller issued. -/
def callsOf [DecidableEq Caller] (observer : Caller)
    (calls : List (Call Caller Key Op)) : List (Call Caller Key Op) :=
  calls.filter fun call => call.caller = observer

/-- Two stores agree on the keys that one caller may use. -/
def AgreeOn (owns : Caller → Key → Prop) (observer : Caller)
    (cells alone : Key → Cell) : Prop :=
  ∀ key, owns observer key → cells key = alone key

private theorem agreeOn_update [DecidableEq Key] {owns : Caller → Key → Prop}
    {observer : Caller} {cells alone : Key → Cell}
    (agree : AgreeOn owns observer cells alone) (key : Key) (cell : Cell) :
    AgreeOn owns observer
      (Function.update cells key cell) (Function.update alone key cell) := by
  intro other owned
  by_cases same : other = key
  · subst other
    simp
  · rw [Function.update_of_ne same, Function.update_of_ne same]
    exact agree other owned

private theorem agreeOn_update_foreign [DecidableEq Key]
    {owns : Caller → Key → Prop} {observer : Caller} {cells alone : Key → Cell}
    (agree : AgreeOn owns observer cells alone) {key : Key}
    (foreign : ¬ owns observer key) (cell : Cell) :
    AgreeOn owns observer (Function.update cells key cell) alone := by
  intro other owned
  have different : other ≠ key := by
    intro same
    rw [same] at owned
    exact foreign owned
  rw [Function.update_of_ne different]
  exact agree other owned

private theorem observations_agree [DecidableEq Caller] [DecidableEq Key]
    (service : KeyedService Cell Op Out) {owns : Caller → Key → Prop}
    (exclusive : ∀ first second key, owns first key → owns second key → first = second)
    (observer : Caller) (calls : List (Call Caller Key Op)) :
    ∀ cells alone : Key → Cell,
      (∀ call ∈ calls, owns call.caller call.key) →
      AgreeOn owns observer cells alone →
        observations service observer cells calls =
          observations service observer alone (callsOf observer calls) := by
  induction calls with
  | nil =>
      intro cells alone _owned _agree
      rfl
  | cons call rest inductionHypothesis =>
      intro cells alone owned agree
      have restOwned : ∀ later ∈ rest, owns later.caller later.key :=
        fun later member => owned later (List.mem_cons_of_mem call member)
      have headOwned : owns call.caller call.key :=
        owned call List.mem_cons_self
      by_cases mine : call.caller = observer
      · have sameCell : cells call.key = alone call.key :=
          agree call.key (mine ▸ headOwned)
        have laterSame :=
          inductionHypothesis _ _ restOwned
            (agreeOn_update agree call.key
              (service.apply call.op (alone call.key)).2)
        simp only [callsOf, List.filter_cons, mine, decide_true, if_true,
          observations, sameCell]
        exact congrArg _ laterSame
      · have foreign : ¬ owns observer call.key :=
          fun also => mine (exclusive _ _ _ headOwned also)
        have laterSame :=
          inductionHypothesis _ _ restOwned
            (agreeOn_update_foreign agree foreign
              (service.apply call.op (cells call.key)).2)
        simp only [callsOf, List.filter_cons, mine, decide_false, if_false,
          observations, Bool.false_eq_true]
        exact laterSame

/-- Non-interference: callers whose keys are disjoint observe what they would
observe running alone. -/
theorem observations_eq_alone [DecidableEq Caller] [DecidableEq Key]
    (service : KeyedService Cell Op Out) {owns : Caller → Key → Prop}
    (exclusive : ∀ first second key, owns first key → owns second key → first = second)
    (cells : Key → Cell) (calls : List (Call Caller Key Op))
    (owned : ∀ call ∈ calls, owns call.caller call.key) (observer : Caller) :
    observations service observer cells calls =
      observations service observer cells (callsOf observer calls) :=
  observations_agree service exclusive observer calls cells cells owned
    (fun _ _ => rfl)

/-- A call that may be refused before it reaches the service. -/
structure Attempt (Caller Key Op Refusal : Type) where
  caller : Caller
  request : Except Refusal (Key × Op)

/-- What one attempt returns and the cells it leaves: a refused attempt leaves
them as they are. -/
def attempt [DecidableEq Key] (service : KeyedService Cell Op Out) (cells : Key → Cell) :
    Except Refusal (Key × Op) → Except Refusal Out × (Key → Cell)
  | .error refusal => (.error refusal, cells)
  | .ok (key, op) =>
      let answer := service.apply op (cells key)
      (.ok answer.1, Function.update cells key answer.2)

/-- The answers and refusals one caller gets in an interleaved run, in order. -/
def attemptObservations [DecidableEq Caller] [DecidableEq Key]
    (service : KeyedService Cell Op Out) (observer : Caller) :
    (Key → Cell) → List (Attempt Caller Key Op Refusal) → List (Except Refusal Out)
  | _, [] => []
  | cells, call :: rest =>
      let outcome := attempt service cells call.request
      let later := attemptObservations service observer outcome.2 rest
      if call.caller = observer then outcome.1 :: later else later

/-- The keys of the attempts that are not refused belong to their callers. -/
def OwnsRequest (owns : Caller → Key → Prop) (call : Attempt Caller Key Op Refusal) : Prop :=
  ∀ key op, call.request = .ok (key, op) → owns call.caller key

/-- An attempt of the observer itself returns the same with and without the
others. -/
private theorem attempt_mine [DecidableEq Key] (service : KeyedService Cell Op Out)
    {owns : Caller → Key → Prop} {call : Attempt Caller Key Op Refusal}
    {cells alone : Key → Cell} (agree : AgreeOn owns call.caller cells alone)
    (owned : OwnsRequest owns call) :
    (attempt service cells call.request).1 = (attempt service alone call.request).1 ∧
      AgreeOn owns call.caller (attempt service cells call.request).2
        (attempt service alone call.request).2 := by
  cases requested : call.request with
  | error refusal =>
      exact ⟨rfl, agree⟩
  | ok request =>
      obtain ⟨key, op⟩ := request
      have sameCell : cells key = alone key := agree key (owned key op requested)
      dsimp only [attempt]
      rw [sameCell]
      exact ⟨rfl, agreeOn_update agree key _⟩

private theorem attempt_foreign [DecidableEq Key] (service : KeyedService Cell Op Out)
    {owns : Caller → Key → Prop} {observer : Caller} {cells alone : Key → Cell}
    (agree : AgreeOn owns observer cells alone) {request : Except Refusal (Key × Op)}
    (foreign : ∀ key op, request = .ok (key, op) → ¬ owns observer key) :
    AgreeOn owns observer (attempt service cells request).2 alone := by
  cases request with
  | error refusal =>
      exact agree
  | ok request =>
      obtain ⟨key, op⟩ := request
      exact agreeOn_update_foreign agree (foreign key op rfl) _

private theorem attemptObservations_agree [DecidableEq Caller] [DecidableEq Key]
    (service : KeyedService Cell Op Out) {owns : Caller → Key → Prop}
    (exclusive : ∀ first second key, owns first key → owns second key → first = second)
    (observer : Caller) (calls : List (Attempt Caller Key Op Refusal)) :
    ∀ cells alone : Key → Cell,
      (∀ call ∈ calls, OwnsRequest owns call) →
      AgreeOn owns observer cells alone →
        attemptObservations service observer cells calls =
          attemptObservations service observer alone
            (calls.filter fun call => call.caller = observer) := by
  induction calls with
  | nil =>
      intro cells alone _owned _agree
      rfl
  | cons call rest inductionHypothesis =>
      intro cells alone owned agree
      have restOwned : ∀ later ∈ rest, OwnsRequest owns later :=
        fun later member => owned later (List.mem_cons_of_mem call member)
      have headOwned : OwnsRequest owns call := owned call List.mem_cons_self
      by_cases mine : call.caller = observer
      · obtain ⟨sameAnswer, stillAgree⟩ := attempt_mine service (mine ▸ agree) headOwned
        have laterSame := inductionHypothesis _ _ restOwned (mine ▸ stillAgree)
        simp only [List.filter_cons, mine, decide_true, if_true, attemptObservations]
        rw [sameAnswer, laterSame]
      · have foreign : ∀ key op, call.request = .ok (key, op) → ¬ owns observer key :=
          fun key op requested also =>
            mine (exclusive _ _ _ (headOwned key op requested) also)
        have laterSame :=
          inductionHypothesis _ _ restOwned (attempt_foreign service agree foreign)
        simp only [List.filter_cons, mine, decide_false, if_false, attemptObservations,
          Bool.false_eq_true]
        exact laterSame

/-- Non-interference where some calls are refused on the way. -/
theorem attemptObservations_eq_alone [DecidableEq Caller] [DecidableEq Key]
    (service : KeyedService Cell Op Out) {owns : Caller → Key → Prop}
    (exclusive : ∀ first second key, owns first key → owns second key → first = second)
    (cells : Key → Cell) (calls : List (Attempt Caller Key Op Refusal))
    (owned : ∀ call ∈ calls, OwnsRequest owns call) (observer : Caller) :
    attemptObservations service observer cells calls =
      attemptObservations service observer cells
        (calls.filter fun call => call.caller = observer) :=
  attemptObservations_agree service exclusive observer calls cells cells owned
    (fun _ _ => rfl)

end PlatformArchitecture.Foundations
