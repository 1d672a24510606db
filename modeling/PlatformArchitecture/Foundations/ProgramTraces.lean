import PlatformArchitecture.Foundations.Program

/-!
# Traces of programs

A trace of a program lists the statements it issued with what the environment
made of each.  Nothing is assumed of the environment: every list of outcomes
that the program can meet is a trace.  The rules take the trace of a composed
program apart.
-/

namespace PlatformArchitecture.Foundations

/-- A statement and what became of it. -/
structure TraceEntry (Op : Type) (Reply : Op → Type) (Error : Type) where
  op : Op
  outcome : Except Error (Reply op)

namespace Program

variable {Op Error Result Other : Type} {Reply : Op → Type}

/-- The program issues these statements, with these outcomes, and ends so. -/
inductive Trace : Program Op Reply Error Result → List (TraceEntry Op Reply Error) →
    Except Error Result → Prop where
  | done (result : Result) : Trace (.done result) [] (.ok result)
  | fail (error : Error) : Trace (.fail error) [] (.error error)
  | perform (op : Op) (next : Except Error (Reply op) → Program Op Reply Error Result)
      (outcome : Except Error (Reply op)) {entries : List (TraceEntry Op Reply Error)}
      {ended : Except Error Result} (rest : Trace (next outcome) entries ended) :
      Trace (.perform op next) (⟨op, outcome⟩ :: entries) ended

variable {entries : List (TraceEntry Op Reply Error)}

theorem trace_done_iff {result : Result} {ended : Except Error Result} :
    Trace (done result : Program Op Reply Error Result) entries ended ↔
      entries = [] ∧ ended = .ok result := by
  constructor
  · rintro ⟨⟩
    exact ⟨rfl, rfl⟩
  · rintro ⟨rfl, rfl⟩
    exact .done result

theorem trace_fail_iff {error : Error} {ended : Except Error Result} :
    Trace (fail error : Program Op Reply Error Result) entries ended ↔
      entries = [] ∧ ended = .error error := by
  constructor
  · rintro ⟨⟩
    exact ⟨rfl, rfl⟩
  · rintro ⟨rfl, rfl⟩
    exact .fail error

theorem trace_perform_iff {op : Op} {next : Except Error (Reply op) → Program Op Reply Error Result}
    {ended : Except Error Result} :
    Trace (perform op next) entries ended ↔
      ∃ outcome rest, entries = ⟨op, outcome⟩ :: rest ∧ Trace (next outcome) rest ended := by
  constructor
  · rintro (_ | _ | ⟨_, _, outcome, isRest⟩)
    exact ⟨outcome, _, rfl, isRest⟩
  · rintro ⟨outcome, rest, rfl, isRest⟩
    exact .perform op next outcome isRest

theorem trace_check_iff {verdict ended : Except Error Result} :
    Trace (check verdict : Program Op Reply Error Result) entries ended ↔
      entries = [] ∧ ended = verdict := by
  cases verdict with
  | ok result => exact trace_done_iff
  | error error => exact trace_fail_iff

theorem trace_call_iff {op : Op} {ended : Except Error (Reply op)} :
    Trace (call op : Program Op Reply Error (Reply op)) entries ended ↔
      entries = [⟨op, ended⟩] := by
  constructor
  · intro trace
    obtain ⟨outcome, rest, rfl, isRest⟩ := trace_perform_iff.mp trace
    cases outcome with
    | ok reply =>
        obtain ⟨rfl, rfl⟩ := trace_done_iff.mp isRest
        rfl
    | error error =>
        obtain ⟨rfl, rfl⟩ := trace_fail_iff.mp isRest
        rfl
  · rintro rfl
    apply Trace.perform op _ ended
    cases ended with
    | ok reply => exact .done reply
    | error error => exact .fail error

/-- The rule for a sequence: its first part fails, or its second part goes on. -/
theorem trace_bind_iff {program : Program Op Reply Error Result}
    {rest : Result → Program Op Reply Error Other} {ended : Except Error Other} :
    Trace (program >>= rest) entries ended ↔
      (∃ error, Trace program entries (.error error) ∧ ended = .error error) ∨
        ∃ result first others, entries = first ++ others ∧ Trace program first (.ok result) ∧
          Trace (rest result) others ended := by
  constructor
  · induction program generalizing entries with
    | done result =>
        intro trace
        exact .inr ⟨result, [], entries, rfl, .done result, trace⟩
    | fail error =>
        intro trace
        obtain ⟨rfl, rfl⟩ := trace_fail_iff.mp trace
        exact .inl ⟨error, .fail error, rfl⟩
    | perform op next inductionHypothesis =>
        intro trace
        obtain ⟨outcome, others, rfl, isRest⟩ := trace_perform_iff.mp trace
        rcases inductionHypothesis outcome isRest with
          ⟨error, failed, rfl⟩ | ⟨result, first, following, rfl, passed, goesOn⟩
        · exact .inl ⟨error, .perform op next outcome failed, rfl⟩
        · exact .inr ⟨result, ⟨op, outcome⟩ :: first, following, rfl,
            .perform op next outcome passed, goesOn⟩
  · rintro (⟨error, failed, rfl⟩ | ⟨result, first, others, rfl, passed, goesOn⟩)
    · induction program generalizing entries with
      | done result => cases failed
      | fail error =>
          cases failed
          exact .fail _
      | perform op next inductionHypothesis =>
          obtain ⟨outcome, others, rfl, isRest⟩ := trace_perform_iff.mp failed
          exact .perform op _ outcome (inductionHypothesis outcome isRest)
    · induction program generalizing first with
      | done result =>
          obtain ⟨rfl, isResult⟩ := trace_done_iff.mp passed
          obtain rfl := Except.ok.inj isResult
          exact goesOn
      | fail error => cases passed
      | perform op next inductionHypothesis =>
          obtain ⟨outcome, others, rfl, isRest⟩ := trace_perform_iff.mp passed
          exact .perform op _ outcome (inductionHypothesis outcome _ isRest)

/-- A sequence that succeeds has a result of its first part. -/
theorem trace_bind_ok {program : Program Op Reply Error Result}
    {rest : Result → Program Op Reply Error Other} {final : Other}
    (trace : Trace (program >>= rest) entries (.ok final)) :
    ∃ result first others, entries = first ++ others ∧ Trace program first (.ok result) ∧
      Trace (rest result) others (.ok final) := by
  rcases trace_bind_iff.mp trace with ⟨error, -, isError⟩ | sequence
  · cases isError
  · exact sequence

/-- The rule for a handler: the program succeeds, or the handler takes over. -/
theorem trace_orElse_iff {program : Program Op Reply Error Result}
    {handler : Error → Program Op Reply Error Result} {ended : Except Error Result} :
    Trace (program.orElse handler) entries ended ↔
      (∃ result, Trace program entries (.ok result) ∧ ended = .ok result) ∨
        ∃ error first others, entries = first ++ others ∧ Trace program first (.error error) ∧
          Trace (handler error) others ended := by
  constructor
  · induction program generalizing entries with
    | done result =>
        intro trace
        obtain ⟨rfl, rfl⟩ := trace_done_iff.mp trace
        exact .inl ⟨result, .done result, rfl⟩
    | fail error =>
        intro trace
        exact .inr ⟨error, [], entries, rfl, .fail error, trace⟩
    | perform op next inductionHypothesis =>
        intro trace
        obtain ⟨outcome, others, rfl, isRest⟩ := trace_perform_iff.mp trace
        rcases inductionHypothesis outcome isRest with
          ⟨result, passed, rfl⟩ | ⟨error, first, following, rfl, failed, goesOn⟩
        · exact .inl ⟨result, .perform op next outcome passed, rfl⟩
        · exact .inr ⟨error, ⟨op, outcome⟩ :: first, following, rfl,
            .perform op next outcome failed, goesOn⟩
  · rintro (⟨result, passed, rfl⟩ | ⟨error, first, others, rfl, failed, goesOn⟩)
    · induction program generalizing entries with
      | done result =>
          cases passed
          exact .done _
      | fail error => cases passed
      | perform op next inductionHypothesis =>
          obtain ⟨outcome, others, rfl, isRest⟩ := trace_perform_iff.mp passed
          exact .perform op _ outcome (inductionHypothesis outcome isRest)
    · induction program generalizing first with
      | done result => cases failed
      | fail error =>
          obtain ⟨rfl, isError⟩ := trace_fail_iff.mp failed
          obtain rfl := Except.error.inj isError
          exact goesOn
      | perform op next inductionHypothesis =>
          obtain ⟨outcome, others, rfl, isRest⟩ := trace_perform_iff.mp failed
          exact .perform op _ outcome (inductionHypothesis outcome _ isRest)

/-- Every statement of a trace is of the kind that the program issues. -/
theorem Trace.kind {kind : Op → Prop} {program : Program Op Reply Error Result}
    {ended : Except Error Result} (trace : Trace program entries ended)
    (issues : program.Issues kind) : ∀ entry ∈ entries, kind entry.op := by
  induction trace with
  | done result | fail error => exact fun _ none => nomatch none
  | perform op next outcome rest inductionHypothesis =>
      intro entry member
      rcases List.mem_cons.mp member with rfl | later
      · exact issues.1
      · exact inductionHypothesis (issues.2 outcome) entry later

/-- The trace that an environment makes, which answers by what came before. -/
def follow (answer : List (TraceEntry Op Reply Error) → (op : Op) → Except Error (Reply op)) :
    Program Op Reply Error Result → List (TraceEntry Op Reply Error) →
      List (TraceEntry Op Reply Error) × Except Error Result
  | done result, _ => ([], .ok result)
  | fail error, _ => ([], .error error)
  | perform op next, before =>
      let outcome := answer before op
      let (entries, ended) := (next outcome).follow answer (before ++ [⟨op, outcome⟩])
      (⟨op, outcome⟩ :: entries, ended)

/-- Every environment makes a trace. -/
theorem trace_follow
    (answer : List (TraceEntry Op Reply Error) → (op : Op) → Except Error (Reply op))
    (program : Program Op Reply Error Result) (before : List (TraceEntry Op Reply Error)) :
    Trace program (program.follow answer before).1 (program.follow answer before).2 := by
  induction program generalizing before with
  | done result => exact .done result
  | fail error => exact .fail error
  | perform op next inductionHypothesis =>
      exact .perform op next _ (inductionHypothesis (answer before op) _)

end Program

end PlatformArchitecture.Foundations
