import PlatformArchitecture.Foundations.Concurrent

/-!
# Processes that do not see the others

Some processes of a world go on as if the others were not there, when the shared
states look alike to them with and without the others.  For that their own
statements must be answered alike and keep the states alike, and the statements
of the others must not be seen.
-/

namespace PlatformArchitecture.Foundations

/-- The process that an event is about. -/
def processOf {Pid Choice : Type} : Event Pid Choice → Pid
  | .statement pid _ => pid
  | .disconnect pid => pid
  | .crash pid => pid

namespace World

variable {Pid Choice State Op Error Result : Type} {Reply : Op → Type}

/-- Both statements wait, or they are answered alike. -/
def OutcomesAlike {Answer : Type} (alike : State → State → Prop)
    (first second : Option (Answer × State)) : Prop :=
  Option.Rel (fun one other => one.1 = other.1 ∧ alike one.2 other.2) first second

/-- What statements and lost connections do to states that look alike. -/
structure Unwinds (server : Server Pid Choice State Op Reply Error) (mine : Pid → Prop)
    (alike : State → State → Prop)
    (point : Pid → State → Program Op Reply Error Result → Prop) : Prop where
  own : ∀ {pid choice op next first second}, mine pid → alike first second →
    point pid first (.perform op next) → point pid second (.perform op next) →
      OutcomesAlike alike (server.outcome pid choice op first)
        (server.outcome pid choice op second)
  others : ∀ {pid choice op next first second reply after}, ¬ mine pid → alike first second →
    point pid first (.perform op next) →
      server.outcome pid choice op first = some (reply, after) → alike after second
  ownLost : ∀ {pid first second}, mine pid → alike first second →
    alike (server.disconnect pid first) (server.disconnect pid second)
  othersLost : ∀ {pid first second}, ¬ mine pid → alike first second →
    alike (server.disconnect pid first) second

/-- The processes at hand stand where they stand in the other world, over shared
states that look alike. -/
structure LooksAlike (mine : Pid → Prop) (alike : State → State → Prop)
    (world alone : World Pid State Op Reply Error Result) : Prop where
  shared : alike world.shared alone.shared
  programs : ∀ pid, mine pid → world.programs pid = alone.programs pid

variable [DecidableEq Pid] {server : Server Pid Choice State Op Reply Error} {mine : Pid → Prop}
  {alike : State → State → Prop} {invariant : State → Prop}
  {point : Pid → State → Program Op Reply Error Result → Prop}
  {world alone : World Pid State Op Reply Error Result}

theorem LooksAlike.update_own (same : LooksAlike mine alike world alone) {first second : State}
    (states : alike first second) (pid : Pid)
    (program : Option (Program Op Reply Error Result)) :
    LooksAlike mine alike ⟨first, Function.update world.programs pid program⟩
      ⟨second, Function.update alone.programs pid program⟩ := by
  refine ⟨states, ?_⟩
  intro other isMine
  change Function.update _ _ _ other = Function.update _ _ _ other
  by_cases isPid : other = pid
  · subst other
    rw [Function.update_self, Function.update_self]
  · rw [Function.update_of_ne isPid, Function.update_of_ne isPid]
    exact same.programs other isMine

theorem LooksAlike.update_others (same : LooksAlike mine alike world alone) {first : State}
    (states : alike first alone.shared) {pid : Pid} (notMine : ¬ mine pid)
    (program : Option (Program Op Reply Error Result)) :
    LooksAlike mine alike ⟨first, Function.update world.programs pid program⟩ alone := by
  refine ⟨states, ?_⟩
  intro other isMine
  change Function.update _ _ _ other = _
  rw [Function.update_of_ne]
  · exact same.programs other isMine
  · rintro rfl
    exact notMine isMine

/-- An event of one of the processes, with and without the others. -/
theorem LooksAlike.step_own (unwinds : Unwinds server mine alike point)
    (consistent : world.Consistent invariant point)
    (aloneConsistent : alone.Consistent invariant point)
    (same : LooksAlike mine alike world alone) {event : Event Pid Choice}
    (isMine : mine (processOf event)) :
    LooksAlike mine alike (world.step server event) (alone.step server event) := by
  cases event with
  | disconnect pid => exact ⟨unwinds.ownLost isMine same.shared, same.programs⟩
  | crash pid => exact same.update_own (unwinds.ownLost isMine same.shared) pid none
  | statement pid choice =>
      have sameProgram := same.programs pid isMine
      cases current : world.programs pid with
      | none =>
          rw [current] at sameProgram
          simpa only [step, current, ← sameProgram] using same
      | some program =>
          rw [current] at sameProgram
          cases program with
          | done result => simpa only [step, current, ← sameProgram] using same
          | fail error => simpa only [step, current, ← sameProgram] using same
          | perform op next =>
              have outcomes :
                  OutcomesAlike alike (server.outcome pid choice op world.shared)
                    (server.outcome pid choice op alone.shared) :=
                unwinds.own isMine same.shared (consistent.points pid _ current)
                  (aloneConsistent.points pid _ sameProgram.symm)
              unfold OutcomesAlike at outcomes
              cases first : server.outcome pid choice op world.shared with
              | none =>
                  rw [first] at outcomes
                  cases second : server.outcome pid choice op alone.shared with
                  | none => simpa only [step, current, ← sameProgram, first, second] using same
                  | some answer =>
                      rw [second] at outcomes
                      cases outcomes
              | some answer =>
                  rw [first] at outcomes
                  cases second : server.outcome pid choice op alone.shared with
                  | none =>
                      rw [second] at outcomes
                      cases outcomes
                  | some other =>
                      rw [second] at outcomes
                      obtain ⟨reply, after⟩ := answer
                      obtain ⟨otherReply, otherAfter⟩ := other
                      cases outcomes with
                      | some facts =>
                          obtain ⟨rfl, states⟩ := facts
                          rw [step_statement current first,
                            step_statement sameProgram.symm second]
                          exact same.update_own states pid _

/-- An event of another process is not seen. -/
theorem LooksAlike.step_others (unwinds : Unwinds server mine alike point)
    (consistent : world.Consistent invariant point)
    (same : LooksAlike mine alike world alone) {event : Event Pid Choice}
    (notMine : ¬ mine (processOf event)) :
    LooksAlike mine alike (world.step server event) alone := by
  cases event with
  | disconnect pid => exact ⟨unwinds.othersLost notMine same.shared, same.programs⟩
  | crash pid => exact same.update_others (unwinds.othersLost notMine same.shared) notMine none
  | statement pid choice =>
      rcases statement_cases server world pid choice with
        unchanged | ⟨op, next, reply, shared, current, answer, moved⟩
      · rw [unchanged]
        exact same
      · rw [moved]
        have states :=
          unwinds.others notMine same.shared (consistent.points pid _ current) answer
        exact same.update_others states notMine _

/-- In every run the processes stand where they stand when the events of the
others are left out. -/
theorem run_looksAlike [DecidablePred mine] (unwinds : Unwinds server mine alike point)
    (kept : ∀ (world : World Pid State Op Reply Error Result) event,
      world.Consistent invariant point → (world.step server event).Consistent invariant point)
    (schedule : List (Event Pid Choice)) :
    ∀ {world alone : World Pid State Op Reply Error Result},
      world.Consistent invariant point → alone.Consistent invariant point →
        LooksAlike mine alike world alone →
          LooksAlike mine alike (run (step server) world schedule)
            (run (step server) alone
              (schedule.filter fun event => mine (processOf event))) := by
  induction schedule with
  | nil => exact fun _ _ same => same
  | cons event rest inductionHypothesis =>
      intro world alone consistent aloneConsistent same
      by_cases isMine : mine (processOf event)
      · rw [List.filter_cons, if_pos (decide_eq_true isMine), run_cons, run_cons]
        exact inductionHypothesis (kept world event consistent) (kept alone event aloneConsistent)
          (same.step_own unwinds consistent aloneConsistent isMine)
      · rw [List.filter_cons, if_neg fun yes => isMine (of_decide_eq_true yes), run_cons]
        exact inductionHypothesis (kept world event consistent) aloneConsistent
          (same.step_others unwinds consistent isMine)

end World

end PlatformArchitecture.Foundations
