import PlatformArchitecture.Foundations.Concurrent
import Mathlib.Data.List.Nodup

/-!
# A lookup followed by a separate save

A repository finds a row by its key and saves a row, each atomically, and
accepts any row.  Programs that save a row only after they have found none of
its key keep the keys distinct when they run one after another.  Run at once,
they keep them distinct in just the schedules in which no other row of that
key is saved between the lookup and the save.
-/

namespace PlatformArchitecture.Foundations

/-- What a service asks of its repositories: a question of another kind, a row
by its key, or to save one. -/
inductive RepositoryCall (Question Key Row : Type) where
  | ask (question : Question)
  | find (key : Key)
  | save (row : Row)

abbrev RepositoryCall.Reply {Question Key Row : Type} (Answer : Question → Type) :
    RepositoryCall Question Key Row → Type
  | .ask question => Answer question
  | .find _ => Option Row
  | .save _ => Unit

section Programs

variable {Question Key Row Error Result : Type} {Answer : Question → Type}

abbrev RepositoryProgram (Question Key Row : Type) (Answer : Question → Type)
    (Error Result : Type) :=
  Program (RepositoryCall Question Key Row) (RepositoryCall.Reply Answer) Error Result

def askRepository (question : Question) :
    RepositoryProgram Question Key Row Answer Error (Answer question) :=
  Program.call (RepositoryCall.ask question)

def findInRepository (key : Key) : RepositoryProgram Question Key Row Answer Error (Option Row) :=
  Program.call (RepositoryCall.find key)

def saveInRepository (row : Row) : RepositoryProgram Question Key Row Answer Error Unit :=
  Program.call (RepositoryCall.save row)

/-- The key that a lookup has just found no row of. -/
def missed (key : Key) : Except Error (Option Row) → Option Key
  | .ok none => some key
  | _ => none

/-- A program saves a row only after its last lookup has found none of the key
of the row: the key it has last found no row of is carried along. -/
inductive LooksBeforeSaving (keyOf : Row → Key) :
    Option Key → RepositoryProgram Question Key Row Answer Error Result → Prop where
  | done (looked : Option Key) (result : Result) : LooksBeforeSaving keyOf looked (.done result)
  | fail (looked : Option Key) (error : Error) : LooksBeforeSaving keyOf looked (.fail error)
  | ask {looked : Option Key} {question : Question}
      {next : Except Error (Answer question) →
        RepositoryProgram Question Key Row Answer Error Result}
      (looks : ∀ reply, LooksBeforeSaving keyOf looked (next reply)) :
      LooksBeforeSaving keyOf looked (.perform (.ask question) next)
  | find {looked : Option Key} {key : Key}
      {next : Except Error (Option Row) →
        RepositoryProgram Question Key Row Answer Error Result}
      (looks : ∀ reply, LooksBeforeSaving keyOf (missed key reply) (next reply)) :
      LooksBeforeSaving keyOf looked (.perform (.find key) next)
  | save {row : Row}
      {next : Except Error Unit → RepositoryProgram Question Key Row Answer Error Result}
      (looks : ∀ reply, LooksBeforeSaving keyOf none (next reply)) :
      LooksBeforeSaving keyOf (some (keyOf row)) (.perform (.save row) next)

namespace LooksBeforeSaving

variable {Other : Type} {keyOf : Row → Key} {looked : Option Key}

theorem check_bind {verdict : Except Error Other}
    {rest : Other → RepositoryProgram Question Key Row Answer Error Result}
    (looks : ∀ result, LooksBeforeSaving keyOf looked (rest result)) :
    LooksBeforeSaving keyOf looked (Program.check verdict >>= rest) := by
  cases verdict with
  | ok result => exact looks result
  | error error => exact .fail looked error

theorem ask_bind {question : Question}
    {rest : Answer question → RepositoryProgram Question Key Row Answer Error Result}
    (looks : ∀ answer, LooksBeforeSaving keyOf looked (rest answer)) :
    LooksBeforeSaving keyOf looked (askRepository question >>= rest) := by
  rw [askRepository, Program.call_bind]
  refine .ask fun reply => ?_
  cases reply with
  | ok answer => exact looks answer
  | error error => exact .fail looked error

theorem find_bind {key : Key}
    {rest : Option Row → RepositoryProgram Question Key Row Answer Error Result}
    (absent : LooksBeforeSaving keyOf (some key) (rest none))
    (present : ∀ row, LooksBeforeSaving keyOf none (rest (some row))) :
    LooksBeforeSaving keyOf looked (findInRepository key >>= rest) := by
  rw [findInRepository, Program.call_bind]
  refine .find fun reply => ?_
  cases reply with
  | ok found =>
      cases found with
      | none => exact absent
      | some row => exact present row
  | error error => exact .fail none error

theorem save_bind {row : Row}
    {rest : Unit → RepositoryProgram Question Key Row Answer Error Result}
    (looks : LooksBeforeSaving keyOf none (rest ())) :
    LooksBeforeSaving keyOf (some (keyOf row)) (saveInRepository row >>= rest) := by
  rw [saveInRepository, Program.call_bind]
  refine .save fun reply => ?_
  cases reply with
  | ok _ => exact looks
  | error error => exact .fail none error

end LooksBeforeSaving

end Programs

/-- The rows in the order they were saved, and how many there were when each
process last looked. -/
structure Repository (Pid Row : Type) where
  rows : List Row
  seen : Pid → Nat

section Server

variable {Pid Question Key Row Error Result : Type} {Answer : Question → Type}
  [DecidableEq Pid] [DecidableEq Key]

/-- How a statement is delivered, and what other questions are answered at that
moment. -/
structure RepositoryChoice (Question : Type) (Answer : Question → Type) where
  delivery : Delivery
  answers : (question : Question) → Answer question

def repositoryOutcome (disconnected : Error) (keyOf : Row → Key) (pid : Pid)
    (choice : RepositoryChoice Question Answer) (call : RepositoryCall Question Key Row)
    (state : Repository Pid Row) :
    Except Error (call.Reply Answer) × Repository Pid Row :=
  match call, choice.delivery with
  | .ask question, .answered => (.ok (choice.answers question), state)
  | .find key, .answered =>
      (.ok (state.rows.find? fun row => keyOf row = key),
        { state with seen := Function.update state.seen pid state.rows.length })
  | .save row, .answered => (.ok (), { state with rows := state.rows ++ [row] })
  | .save row, .unacknowledged =>
      (.error disconnected, { state with rows := state.rows ++ [row] })
  | _, _ => (.error disconnected, state)

/-- A repository that imposes no uniqueness. -/
def repositoryServer (disconnected : Error) (keyOf : Row → Key) :
    Server Pid (RepositoryChoice Question Answer) (Repository Pid Row)
      (RepositoryCall Question Key Row) (RepositoryCall.Reply Answer) Error where
  outcome pid choice call state := some (repositoryOutcome disconnected keyOf pid choice call state)
  disconnect _ state := state

abbrev RepositoryWorld (Pid Question Key Row : Type) (Answer : Question → Type)
    (Error Result : Type) :=
  World Pid (Repository Pid Row) (RepositoryCall Question Key Row) (RepositoryCall.Reply Answer)
    Error Result

/-- Every program at its beginning over an empty repository. -/
def repositoryStart (programs : Pid → RepositoryProgram Question Key Row Answer Error Result) :
    RepositoryWorld Pid Question Key Row Answer Error Result :=
  World.start { rows := [], seen := fun _pid => 0 } programs

/-- The row a process is about to save. -/
def pendingSave :
    Option (RepositoryProgram Question Key Row Answer Error Result) → Option Row
  | some (.perform (.save row) _) => some row
  | _ => none

/-- The process that an event lets save, and the row. -/
def savedBy (world : RepositoryWorld Pid Question Key Row Answer Error Result) :
    Event Pid (RepositoryChoice Question Answer) → Option (Pid × Row)
  | .statement pid choice =>
      if choice.delivery = .refused then none
      else (pendingSave (world.programs pid)).map fun row => (pid, row)
  | _ => none

/-- No row of the key of a row that is saved has been saved since its process
looked. -/
def SavesUndisturbed (keyOf : Row → Key)
    (world : RepositoryWorld Pid Question Key Row Answer Error Result)
    (event : Event Pid (RepositoryChoice Question Answer)) : Prop :=
  ∀ saving ∈ savedBy world event,
    ∀ row ∈ world.shared.rows.drop (world.shared.seen saving.1), keyOf row ≠ keyOf saving.2

/-! ## What each statement keeps -/

/-- The keys are distinct, and no process has seen more rows than there are. -/
structure DistinctKeys (keyOf : Row → Key) (state : Repository Pid Row) : Prop where
  distinct : (state.rows.map keyOf).Nodup
  seen : ∀ pid, state.seen pid ≤ state.rows.length

/-- What a process has looked for in vain is not among the rows it has seen. -/
def HasMissed (keyOf : Row → Key) (state : Repository Pid Row) (pid : Pid)
    (looked : Option Key) : Prop :=
  ∀ key ∈ looked, ∀ row ∈ state.rows.take (state.seen pid), keyOf row ≠ key

/-- Where a process stands: what is left of its program looks before saving. -/
def AtRepositoryCall (keyOf : Row → Key) (pid : Pid) (state : Repository Pid Row)
    (program : RepositoryProgram Question Key Row Answer Error Result) : Prop :=
  ∃ looked, LooksBeforeSaving keyOf looked program ∧ HasMissed keyOf state pid looked

variable {keyOf : Row → Key} {state : Repository Pid Row} {pid other : Pid} {row : Row}

omit [DecidableEq Pid] [DecidableEq Key] in
theorem HasMissed.none : HasMissed keyOf state pid none := by
  intro key absent
  cases absent

omit [DecidableEq Pid] [DecidableEq Key] in
/-- A new row is none of those that have been seen. -/
theorem HasMissed.saved {looked : Option Key} (missed : HasMissed keyOf state pid looked)
    (bounded : state.seen pid ≤ state.rows.length) (row : Row) :
    HasMissed keyOf { state with rows := state.rows ++ [row] } pid looked := by
  intro key isLooked seenRow member
  have before : (state.rows ++ [row]).take (state.seen pid) =
      state.rows.take (state.seen pid) :=
    List.take_append_of_le_length bounded
  exact missed key isLooked seenRow (by rwa [← before])

omit [DecidableEq Key] in
/-- A lookup of one process is not one of another. -/
theorem HasMissed.looked {looked : Option Key} (missed : HasMissed keyOf state other looked)
    (different : other ≠ pid) (count : Nat) :
    HasMissed keyOf { state with seen := Function.update state.seen pid count } other looked := by
  intro key isLooked seenRow member
  have unchanged : Function.update state.seen pid count other = state.seen other :=
    Function.update_of_ne different count state.seen
  exact missed key isLooked seenRow (by rwa [← unchanged])

/-- A lookup that finds nothing has missed its key. -/
theorem hasMissed_of_find (keyOf : Row → Key) (state : Repository Pid Row) (pid : Pid) (key : Key) :
    HasMissed keyOf { state with seen := Function.update state.seen pid state.rows.length } pid
      (missed key (.ok (state.rows.find? fun row => keyOf row = key) :
        Except Error (Option Row))) := by
  cases found : state.rows.find? fun row => keyOf row = key with
  | some row => exact HasMissed.none
  | none =>
      intro looked isLooked row member
      obtain rfl := Option.some.inj isLooked
      have isRow : row ∈ state.rows := List.mem_of_mem_take member
      simpa using List.find?_eq_none.mp found row isRow

omit [DecidableEq Pid] [DecidableEq Key] in
/-- A row whose key was missed and that no one has saved since keeps the keys
distinct. -/
theorem DistinctKeys.saved (holds : DistinctKeys keyOf state)
    (missed : HasMissed keyOf state pid (some (keyOf row)))
    (undisturbed : ∀ later ∈ state.rows.drop (state.seen pid), keyOf later ≠ keyOf row) :
    DistinctKeys keyOf { state with rows := state.rows ++ [row] } where
  distinct := by
    show ((state.rows ++ [row]).map keyOf).Nodup
    rw [List.map_append, List.nodup_append]
    refine ⟨holds.distinct, List.nodup_singleton _, ?_⟩
    intro key member newKey isNew
    obtain ⟨saved, isSaved, rfl⟩ := List.mem_map.mp member
    obtain rfl := List.mem_singleton.mp isNew
    rw [← List.take_append_drop (state.seen pid) state.rows] at isSaved
    rcases List.mem_append.mp isSaved with before | since
    · exact missed (keyOf row) rfl saved before
    · exact undisturbed saved since
  seen other := by
    show state.seen other ≤ (state.rows ++ [row]).length
    rw [List.length_append]
    exact Nat.le_add_right_of_le (holds.seen other)

omit [DecidableEq Key] in
theorem DistinctKeys.looked (holds : DistinctKeys keyOf state) (pid : Pid) :
    DistinctKeys keyOf
      { state with seen := Function.update state.seen pid state.rows.length } where
  distinct := holds.distinct
  seen other := by
    show Function.update state.seen pid state.rows.length other ≤ state.rows.length
    by_cases same : other = pid
    · have own : Function.update state.seen pid state.rows.length other = state.rows.length := by
        rw [same, Function.update_self]
      exact Nat.le_of_eq own
    · rw [Function.update_of_ne same]
      exact holds.seen other

/-! ## Whole schedules -/

variable {disconnected : Error}

/-- What a statement leaves: the state is good, its process goes on from there,
and the others stand where they stood. -/
private abbrev Advances (keyOf : Row → Key) (pid : Pid) (before after : Repository Pid Row)
    (rest : RepositoryProgram Question Key Row Answer Error Result) : Prop :=
  DistinctKeys keyOf after ∧ AtRepositoryCall keyOf pid after rest ∧
    ∀ (other : Pid) (program : RepositoryProgram Question Key Row Answer Error Result),
      other ≠ pid → AtRepositoryCall keyOf other before program →
        AtRepositoryCall keyOf other after program

omit [DecidableEq Pid] [DecidableEq Key] in
private theorem advances_unchanged (holds : DistinctKeys keyOf state)
    {rest : RepositoryProgram Question Key Row Answer Error Result}
    (arrived : AtRepositoryCall keyOf pid state rest) : Advances keyOf pid state state rest :=
  ⟨holds, arrived, fun _other _program _different standing => standing⟩

private theorem advances_found (holds : DistinctKeys keyOf state) {key : Key}
    {next : Except Error (Option Row) →
      RepositoryProgram Question Key Row Answer Error Result}
    (looks : ∀ reply, LooksBeforeSaving keyOf (missed key reply) (next reply)) :
    Advances keyOf pid state
      { state with seen := Function.update state.seen pid state.rows.length }
      (next (.ok (state.rows.find? fun row => keyOf row = key))) := by
  refine ⟨holds.looked pid, ⟨_, looks _, hasMissed_of_find keyOf state pid key⟩, ?_⟩
  intro other program different standing
  obtain ⟨looked, looksOn, missedBefore⟩ := standing
  exact ⟨looked, looksOn, missedBefore.looked different _⟩

omit [DecidableEq Pid] [DecidableEq Key] in
private theorem advances_saved (holds : DistinctKeys keyOf state)
    {rest : RepositoryProgram Question Key Row Answer Error Result}
    (missedBefore : HasMissed keyOf state pid (some (keyOf row)))
    (undisturbed : ∀ later ∈ state.rows.drop (state.seen pid), keyOf later ≠ keyOf row)
    (looks : LooksBeforeSaving keyOf none rest) :
    Advances keyOf pid state { state with rows := state.rows ++ [row] } rest := by
  refine ⟨holds.saved missedBefore undisturbed, ⟨none, looks, HasMissed.none⟩, ?_⟩
  intro other program _different standing
  obtain ⟨looked, looksOn, missed⟩ := standing
  exact ⟨looked, looksOn, missed.saved (holds.seen other) row⟩

/-- The next statement of a process that looks before saving. -/
private theorem repositoryCall_advances {call : RepositoryCall Question Key Row}
    {next : Except Error (call.Reply Answer) →
      RepositoryProgram Question Key Row Answer Error Result}
    {choice : RepositoryChoice Question Answer} (holds : DistinctKeys keyOf state)
    (standing : AtRepositoryCall keyOf pid state (.perform call next))
    (undisturbed : ∀ row, call = .save row → choice.delivery ≠ .refused →
      ∀ later ∈ state.rows.drop (state.seen pid), keyOf later ≠ keyOf row) :
    Advances keyOf pid state (repositoryOutcome disconnected keyOf pid choice call state).2
      (next (repositoryOutcome disconnected keyOf pid choice call state).1) := by
  obtain ⟨delivery, answers⟩ := choice
  obtain ⟨looked, looks, missedBefore⟩ := standing
  cases looks with
  | ask looks =>
      cases delivery with
      | answered | refused | unacknowledged =>
          exact advances_unchanged holds ⟨looked, looks _, missedBefore⟩
  | find looks =>
      cases delivery with
      | answered => exact advances_found holds looks
      | refused | unacknowledged =>
          exact advances_unchanged holds ⟨none, looks (.error disconnected), HasMissed.none⟩
  | save looks =>
      cases delivery with
      | answered | unacknowledged =>
          exact advances_saved holds missedBefore (undisturbed _ rfl (by simp)) (looks _)
      | refused => exact advances_unchanged holds ⟨none, looks _, HasMissed.none⟩

private abbrev ConsistentRepository (keyOf : Row → Key)
    (world : RepositoryWorld Pid Question Key Row Answer Error Result) : Prop :=
  world.Consistent (DistinctKeys keyOf) (AtRepositoryCall keyOf)

omit [DecidableEq Pid] [DecidableEq Key] in
private theorem repositoryStart_consistent
    {programs : Pid → RepositoryProgram Question Key Row Answer Error Result}
    (looks : ∀ pid, LooksBeforeSaving keyOf none (programs pid)) :
    ConsistentRepository keyOf (repositoryStart programs) where
  shared := ⟨List.nodup_nil, fun _pid => Nat.le_refl 0⟩
  points := by
    intro pid program starting
    obtain rfl := Option.some.inj starting
    exact ⟨none, looks pid, HasMissed.none⟩

omit [DecidableEq Pid] [DecidableEq Key] in
private theorem pendingSave_eq_some
    {program : Option (RepositoryProgram Question Key Row Answer Error Result)}
    (saves : pendingSave program = some row) :
    ∃ next, program = some (.perform (.save row) next) := by
  unfold pendingSave at saves
  split at saves
  · next saved next =>
    obtain rfl := Option.some.inj saves
    exact ⟨next, rfl⟩
  · cases saves

private theorem consistentRepository_step
    (world : RepositoryWorld Pid Question Key Row Answer Error Result)
    (event : Event Pid (RepositoryChoice Question Answer))
    (consistent : ConsistentRepository keyOf world)
    (undisturbed : SavesUndisturbed keyOf world event) :
    ConsistentRepository keyOf (world.step (repositoryServer disconnected keyOf) event) := by
  refine World.Consistent.step ?_ ?_ consistent undisturbed
  · intro world pid choice call next reply shared consistent current undisturbed outcome
    have isOutcome : repositoryOutcome disconnected keyOf pid choice call world.shared =
        (reply, shared) :=
      Option.some.inj outcome
    have advances := @repositoryCall_advances _ _ _ _ _ _ _ _ _ keyOf world.shared pid
      disconnected call next choice consistent.shared (consistent.points pid _ current) (by
        rintro row rfl delivered
        have saves : savedBy world (.statement pid choice) = some (pid, row) := by
          simp [savedBy, delivered, current, pendingSave]
        exact undisturbed (pid, row) saves)
    rw [isOutcome] at advances
    exact advances
  · intro pid state holds
    exact ⟨holds, fun _other _program standing => standing⟩

/-- A row that is saved lest the keys be distinct has not been saved since the
lookup. -/
private theorem undisturbed_of_distinct
    {world : RepositoryWorld Pid Question Key Row Answer Error Result}
    {event : Event Pid (RepositoryChoice Question Answer)}
    (distinct : ((world.step (repositoryServer disconnected keyOf) event).shared.rows.map
      keyOf).Nodup) :
    SavesUndisturbed keyOf world event := by
  rintro ⟨saver, row⟩ saves later isLater
  cases event with
  | disconnect _ | crash _ => cases saves
  | statement pid choice =>
      have delivered : choice.delivery ≠ .refused := by
        intro refused
        simp [savedBy, refused] at saves
      simp only [savedBy, delivered, if_false, Option.mem_def, Option.map_eq_some_iff,
        Prod.mk.injEq] at saves
      obtain ⟨saved, isPending, rfl, rfl⟩ := saves
      obtain ⟨next, current⟩ := pendingSave_eq_some isPending
      have outcome : ∃ reply, (repositoryServer disconnected keyOf).outcome pid choice (.save saved)
          world.shared =
            some (reply, { world.shared with rows := world.shared.rows ++ [saved] }) := by
        obtain ⟨delivery, answers⟩ := choice
        cases delivery with
        | refused => exact absurd rfl delivered
        | answered | unacknowledged => exact ⟨_, rfl⟩
      obtain ⟨reply, answer⟩ := outcome
      rw [World.step_statement current answer] at distinct
      have apart : ((world.shared.rows ++ [saved]).map keyOf).Nodup := distinct
      rw [List.map_append, List.nodup_append] at apart
      exact apart.2.2 _ (List.mem_map_of_mem (List.mem_of_mem_drop isLater)) _
        (List.mem_singleton_self _)

/-- The keys stay distinct in just the schedules in which no row of the key of
a row that is saved has been saved since the lookup for it. -/
theorem keysDistinct_iff_undisturbed
    {programs : Pid → RepositoryProgram Question Key Row Answer Error Result}
    (disconnected : Error) (looks : ∀ pid, LooksBeforeSaving keyOf none (programs pid))
    (schedule : List (Event Pid (RepositoryChoice Question Answer))) :
    (∀ prior, prior <+: schedule →
      ((run (World.step (repositoryServer disconnected keyOf)) (repositoryStart programs)
        prior).shared.rows.map keyOf).Nodup) ↔
      EveryStep (World.step (repositoryServer disconnected keyOf)) (SavesUndisturbed keyOf)
        (repositoryStart programs) schedule :=
  @everyState_iff_everyStep _ _ _ _ (ConsistentRepository keyOf)
    (fun world => (world.shared.rows.map keyOf).Nodup) consistentRepository_step
    (fun _world consistent => consistent.shared.distinct)
    (fun _world _event _consistent distinct => undisturbed_of_distinct distinct)
    _ schedule (repositoryStart_consistent looks)

end Server

end PlatformArchitecture.Foundations
