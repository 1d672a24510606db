import PlatformArchitecture.Foundations.Concurrent
import PlatformArchitecture.Foundations.Run

/-!
# Writes that a second statement records

A call writes with one statement and records what it has written with the next
one; nothing makes the two one transaction.  A `RecordedStore` says which
statements of a database write and which record, what a write leaves behind,
and which entries account for a write.

Whatever a call has written is recorded, or the call is about to record it, in
the schedules in which every write that takes effect is answered, every record
takes effect, and no call crashes between the two.
-/

namespace PlatformArchitecture.Foundations

/-- A database with the items that it holds and the entries that it has logged;
its behaviour may depend on the time. -/
structure RecordedStore (Time State Op : Type) (Reply : Op → Type)
    (Error Item Entry : Type) where
  database : Time → Database State Op Reply Error
  writes : Op → Bool
  entry : Op → Option Entry
  holds : State → Item → Prop
  leaves : (op : Op) → Reply op → Item → Prop
  logged : State → Entry → Prop
  accounts : (op : Op) → Reply op → Entry → Prop
  holds_after : ∀ {time op state reply after item},
    (database time).execute op state = .ok (reply, after) → holds after item →
      holds state item ∨ (writes op ∧ leaves op reply item)
  logged_after : ∀ {time op state reply after entry'},
    (database time).execute op state = .ok (reply, after) → entry op = some entry' →
      logged after entry'
  logged_kept : ∀ {time op state reply after entry'},
    (database time).execute op state = .ok (reply, after) → logged state entry' →
      logged after entry'

/-- The reply of a statement that takes effect. -/
def Database.effect {State Op Error : Type} {Reply : Op → Type}
    (database : Database State Op Reply Error) (delivery : Delivery) (op : Op)
    (state : State) : Option (Reply op) :=
  match delivery, database.execute op state with
  | .refused, _ => none
  | _, .error _ => none
  | _, .ok (reply, _) => some reply

/-- A write that took effect. -/
structure Effect {Op : Type} (Reply : Op → Type) where
  op : Op
  reply : Reply op

/-- The state, what each call has written and what it has recorded. -/
structure RecordedState (Pid State Entry : Type) {Op : Type} (Reply : Op → Type) where
  state : State
  written : Pid → Option (Effect Reply)
  recorded : Pid → Option Entry

namespace RecordedStore

variable {Time State Op Error Item Entry Result Other Pid : Type} {Reply : Op → Type}

section Model

variable (store : RecordedStore Time State Op Reply Error Item Entry)

/-! ## Programs -/

/-- The program records a write with its next statement, and ends. -/
inductive Owes (op : Op) (reply : Reply op) : Program Op Reply Error Result → Prop
  | next {record : Op} {next : Except Error (Reply record) → Program Op Reply Error Result}
      {entry : Entry} (isRecord : store.entry record = some entry)
      (onlyRecords : store.writes record = false) (accounted : store.accounts op reply entry)
      (ends : ∀ answer, (next answer).running = false) :
      Owes op reply (.perform record next)

/-- The program reads, writes at most once, and records what it has written. -/
inductive Records : Program Op Reply Error Result → Prop
  | done (result : Result) : Records (.done result)
  | fail (error : Error) : Records (.fail error)
  | read {op : Op} {next : Except Error (Reply op) → Program Op Reply Error Result}
      (onlyReads : store.writes op = false) (noRecord : store.entry op = none)
      (rest : ∀ answer, Records (next answer)) :
      Records (.perform op next)
  | write {op : Op} {next : Except Error (Reply op) → Program Op Reply Error Result}
      (isWrite : store.writes op) (noRecord : store.entry op = none)
      (ends : ∀ error, (next (.error error)).running = false)
      (records : ∀ reply, store.Owes op reply (next (.ok reply))) :
      Records (.perform op next)

/-! ## Calls over one store -/

variable [DecidableEq Pid]

/-- The state after a call's statement has taken effect. -/
def advance (pid : Pid) (op : Op) (reply : Reply op) (state : State)
    (before : RecordedState Pid State Entry Reply) : RecordedState Pid State Entry Reply where
  state
  written :=
    if store.writes op then Function.update before.written pid (some ⟨op, reply⟩)
    else before.written
  recorded :=
    match store.entry op with
    | some entry => Function.update before.recorded pid (some entry)
    | none => before.recorded

def serve (pid : Pid) (choice : Delivery × Time) (op : Op)
    (before : RecordedState Pid State Entry Reply) :
    Except Error (Reply op) × RecordedState Pid State Entry Reply :=
  let database := store.database choice.2
  let outcome := database.attempt choice.1 op before.state
  (outcome.1,
    match database.effect choice.1 op before.state with
    | some reply => store.advance pid op reply outcome.2 before
    | none => before)

def server (Pid : Type) [DecidableEq Pid] :
    Server Pid (Delivery × Time) (RecordedState Pid State Entry Reply) Op Reply Error where
  outcome pid choice op before := some (store.serve pid choice op before)
  disconnect _ state := state

abbrev RecordedWorld (Pid State Entry : Type) {Op : Type} (Reply : Op → Type)
    (Error Result : Type) :=
  World Pid (RecordedState Pid State Entry Reply) Op Reply Error Result

def start (Entry : Type) (state : State) (programs : Pid → Program Op Reply Error Result) :
    RecordedWorld Pid State Entry Reply Error Result :=
  World.start { state, written := fun _ => none, recorded := fun _ => none } programs

/-- A statement that takes effect is answered if it writes, and a statement that
records takes effect. -/
def Delivers (choice : Delivery × Time) (op : Op) (state : State) : Prop :=
  (store.writes op → ((store.database choice.2).effect choice.1 op state).isSome →
      choice.1 = .answered) ∧
    ((store.entry op).isSome → ((store.database choice.2).effect choice.1 op state).isSome)

/-- The condition: statements are delivered, and no call crashes when it is
about to record. -/
def Delivered (world : RecordedWorld Pid State Entry Reply Error Result) :
    Event Pid (Delivery × Time) → Prop
  | .statement pid choice =>
      match world.programs pid with
      | some (.perform op _) => store.Delivers choice op world.shared.state
      | _ => True
  | .disconnect _ => True
  | .crash pid =>
      match world.programs pid with
      | some (.perform op _) => store.entry op = none
      | _ => True

instance (choice : Delivery × Time) (op : Op) (state : State) :
    Decidable (store.Delivers choice op state) :=
  inferInstanceAs (Decidable ((_ → _ → _ = _) ∧ (_ → _)))

instance (world : RecordedWorld Pid State Entry Reply Error Result) :
    (event : Event Pid (Delivery × Time)) → Decidable (store.Delivered world event)
  | .statement pid choice =>
      match left : world.programs pid with
      | some (.perform op _) =>
          decidable_of_iff (store.Delivers choice op world.shared.state)
            (by simp only [Delivered, left])
      | some (.done _) | some (.fail _) | none => isTrue (by simp only [Delivered, left])
  | .disconnect _ => isTrue trivial
  | .crash pid =>
      match left : world.programs pid with
      | some (.perform op _) =>
          decidable_of_iff ((store.entry op).isNone = true)
            (by simp only [Delivered, left, Option.isNone_iff_eq_none])
      | some (.done _) | some (.fail _) | none => isTrue (by simp only [Delivered, left])

/-- The call has a statement left. -/
def InProgress (world : RecordedWorld Pid State Entry Reply Error Result) (pid : Pid) :
    Prop :=
  ∃ program, world.programs pid = some program ∧ program.running

/-- The call has written nothing and recorded nothing, or it has recorded what
it has written. -/
def Settled (state : RecordedState Pid State Entry Reply) (pid : Pid) : Prop :=
  (state.written pid = none ∧ state.recorded pid = none) ∨
    ∃ write entry, state.written pid = some write ∧ state.recorded pid = some entry ∧
      store.accounts write.op write.reply entry ∧ store.logged state.state entry

/-- Every call that is not in progress has done both or neither, and every item
was there before or was left by a write whose entry is logged, unless the call
that wrote it is still in progress. -/
structure Accounted (initial : State)
    (world : RecordedWorld Pid State Entry Reply Error Result) : Prop where
  together : ∀ pid, ¬ InProgress world pid → store.Settled world.shared pid
  items : ∀ item, store.holds world.shared.state item →
    store.holds initial item ∨
      ∃ pid write, world.shared.written pid = some write ∧
        store.leaves write.op write.reply item ∧
          (InProgress world pid ∨
            ∃ entry, store.accounts write.op write.reply entry ∧
              store.logged world.shared.state entry)

end Model

/-! ## Programs that record -/

section Programs

variable {store : RecordedStore Time State Op Reply Error Item Entry} {op : Op}
  {program : Program Op Reply Error Result}

theorem Owes.running {reply : Reply op} (owes : store.Owes op reply program) :
    program.running := by
  cases owes with
  | next => rfl

/-- What is made of the last answer changes no statement. -/
theorem Owes.map {reply : Reply op} (make : Result → Other)
    (owes : store.Owes op reply program) :
    store.Owes op reply (program >>= fun result => .done (make result)) := by
  cases owes with
  | next isRecord onlyRecords accounted ends =>
      refine .next isRecord onlyRecords accounted ?_
      intro answer
      exact (Program.running_bind_done _ make).trans (ends answer)

theorem Records.map (make : Result → Other) (records : store.Records program) :
    store.Records (program >>= fun result => .done (make result)) := by
  induction records with
  | done result => exact .done (make result)
  | fail error => exact .fail error
  | read onlyReads noRecord rest inductionHypothesis =>
      exact .read onlyReads noRecord inductionHypothesis
  | write isWrite noRecord ends records =>
      refine .write isWrite noRecord ?_ fun reply => (records reply).map make
      intro error
      exact (Program.running_bind_done _ make).trans (ends error)

/-- One statement that records. -/
theorem owes_call {reply : Reply op} {record : Op} {entry : Entry}
    (isRecord : store.entry record = some entry) (onlyRecords : store.writes record = false)
    (accounted : store.accounts op reply entry) :
    store.Owes op reply (Program.call record) := by
  refine .next isRecord onlyRecords accounted ?_
  intro answer
  cases answer with
  | ok _ => rfl
  | error _ => rfl

/-- A write in front of its record. -/
theorem records_call_write {rest : Reply op → Program Op Reply Error Result}
    (isWrite : store.writes op) (noRecord : store.entry op = none)
    (records : ∀ reply, store.Owes op reply (rest reply)) :
    store.Records (Program.call op >>= rest) := by
  rw [Program.call_bind]
  exact .write isWrite noRecord (fun _ => rfl) records

/-- A program that only reads in front of a program that records. -/
theorem records_bind_reads {first : Program Op Reply Error Other}
    {rest : Other → Program Op Reply Error Result}
    (reads : first.Issues fun op => store.writes op = false ∧ store.entry op = none)
    (records : ∀ result, store.Records (rest result)) :
    store.Records (first >>= rest) := by
  induction first with
  | done result => exact records result
  | fail error => exact .fail error
  | perform op next inductionHypothesis =>
      obtain ⟨⟨onlyReads, noRecord⟩, later⟩ := reads
      exact .read onlyReads noRecord fun answer => inductionHypothesis answer (later answer)

theorem records_check {verdict : Except Error Other}
    {rest : Other → Program Op Reply Error Result}
    (records : ∀ result, store.Records (rest result)) :
    store.Records (Program.check verdict >>= rest) := by
  cases verdict with
  | ok result => exact records result
  | error error => exact .fail error

end Programs

/-! ## One statement -/

section Statements

variable [DecidableEq Pid] {store : RecordedStore Time State Op Reply Error Item Entry}
  {pid other : Pid} {choice : Delivery × Time} {op : Op} {reply : Reply op}
  {before : RecordedState Pid State Entry Reply} {after : State}

/-- What a statement can do: nothing, or what the database computed, whose reply
may be lost. -/
theorem serve_cases (store : RecordedStore Time State Op Reply Error Item Entry) (pid : Pid)
    (choice : Delivery × Time) (op : Op) (before : RecordedState Pid State Entry Reply) :
    (∃ error, store.serve pid choice op before = (.error error, before) ∧
        (store.database choice.2).effect choice.1 op before.state = none) ∨
      ∃ reply after answer,
        (store.database choice.2).execute op before.state = .ok (reply, after) ∧
        (store.database choice.2).effect choice.1 op before.state = some reply ∧
        store.serve pid choice op before =
          (answer, store.advance pid op reply after before) ∧
        (answer = .ok reply ∨
          answer = .error (store.database choice.2).disconnected ∧
            choice.1 = .unacknowledged) := by
  obtain ⟨delivery, time⟩ := choice
  dsimp only [serve, Database.effect, Database.attempt]
  cases executed : (store.database time).execute op before.state with
  | error error =>
      left
      cases delivery with
      | answered | refused | unacknowledged => exact ⟨_, rfl, rfl⟩
  | ok outcome =>
      cases delivery with
      | refused => exact Or.inl ⟨_, rfl, rfl⟩
      | answered => exact Or.inr ⟨_, _, _, rfl, rfl, rfl, Or.inl rfl⟩
      | unacknowledged => exact Or.inr ⟨_, _, _, rfl, rfl, rfl, Or.inr ⟨rfl, rfl⟩⟩

theorem advance_written_other (different : other ≠ pid) :
    (store.advance pid op reply after before).written other = before.written other := by
  unfold advance
  split
  · exact Function.update_of_ne different _ _
  · rfl

theorem advance_recorded_other (different : other ≠ pid) :
    (store.advance pid op reply after before).recorded other = before.recorded other := by
  cases found : store.entry op with
  | none => simp [advance, found]
  | some entry => simp [advance, found, different]

theorem advance_written_read (onlyReads : store.writes op = false) :
    (store.advance pid op reply after before).written = before.written := by
  unfold advance
  simp [onlyReads]

theorem advance_recorded_none (noRecord : store.entry op = none) :
    (store.advance pid op reply after before).recorded = before.recorded := by
  unfold advance
  simp [noRecord]

theorem advance_written_write (isWrite : store.writes op) :
    (store.advance pid op reply after before).written pid = some ⟨op, reply⟩ := by
  unfold advance
  simp [isWrite]

theorem advance_recorded_entry {entry : Entry} (isRecord : store.entry op = some entry) :
    (store.advance pid op reply after before).recorded pid = some entry := by
  unfold advance
  simp [isRecord]

end Statements

/-! ## The invariant -/

section Invariant

variable {store : RecordedStore Time State Op Reply Error Item Entry}

/-- Where a call stands. -/
inductive RecordPoint (store : RecordedStore Time State Op Reply Error Item Entry)
    (state : RecordedState Pid State Entry Reply) (pid : Pid) :
    Program Op Reply Error Result → Prop
  | before {program : Program Op Reply Error Result} (records : store.Records program)
      (unwritten : state.written pid = none) (unrecorded : state.recorded pid = none) :
      RecordPoint store state pid program
  | owing {program : Program Op Reply Error Result} {write : Effect Reply}
      (isWritten : state.written pid = some write)
      (owes : store.Owes write.op write.reply program) :
      RecordPoint store state pid program
  | ended {program : Program Op Reply Error Result} (ends : program.running = false)
      (settled : store.Settled state pid) :
      RecordPoint store state pid program

/-- Every item is accounted for by the start or by a write, and every call is at
its point. -/
structure Balanced (store : RecordedStore Time State Op Reply Error Item Entry)
    (initial : State) (world : RecordedWorld Pid State Entry Reply Error Result) : Prop where
  items : ∀ item, store.holds world.shared.state item →
    store.holds initial item ∨
      ∃ pid write, world.shared.written pid = some write ∧
        store.leaves write.op write.reply item
  points : ∀ pid program, world.programs pid = some program →
    store.RecordPoint world.shared pid program
  crashed : ∀ pid, world.programs pid = none → store.Settled world.shared pid

variable {initial : State} {world : RecordedWorld Pid State Entry Reply Error Result}
  {state after : RecordedState Pid State Entry Reply} {pid : Pid}
  {program : Program Op Reply Error Result}

theorem RecordPoint.settled (point : store.RecordPoint state pid program)
    (ended : program.running = false) : store.Settled state pid := by
  cases point with
  | before records unwritten unrecorded => exact Or.inl ⟨unwritten, unrecorded⟩
  | owing isWritten owes =>
      rw [owes.running] at ended
      cases ended
  | ended _ settled => exact settled

/-- A call that is not in progress has done both or neither. -/
theorem Balanced.settled (balanced : store.Balanced initial world)
    (ended : ¬ InProgress world pid) : store.Settled world.shared pid := by
  cases left : world.programs pid with
  | none => exact balanced.crashed pid left
  | some program =>
      apply (balanced.points pid program left).settled
      cases isRunning : program.running with
      | false => rfl
      | true => exact absurd ⟨program, left, isRunning⟩ ended

theorem Balanced.accounted (balanced : store.Balanced initial world) :
    store.Accounted initial world where
  together _ ended := balanced.settled ended
  items := by
    intro item held
    rcases balanced.items item held with before | ⟨pid, write, isWritten, leaves⟩
    · exact Or.inl before
    · refine Or.inr ⟨pid, write, isWritten, leaves, ?_⟩
      by_cases inProgress : InProgress world pid
      · exact Or.inl inProgress
      · right
        rcases balanced.settled inProgress with
          ⟨unwritten, -⟩ | ⟨other, entry, sameWrite, -, accounted, logged⟩
        · rw [unwritten] at isWritten
          cases isWritten
        · rw [isWritten] at sameWrite
          cases sameWrite
          exact ⟨entry, accounted, logged⟩

/-- What a call has done stays as it is while others go on. -/
theorem Settled.frame (settled : store.Settled state pid)
    (sameWritten : after.written pid = state.written pid)
    (sameRecorded : after.recorded pid = state.recorded pid)
    (kept : ∀ entry, store.logged state.state entry → store.logged after.state entry) :
    store.Settled after pid := by
  rcases settled with ⟨unwritten, unrecorded⟩ | ⟨write, entry, isWrite, isEntry, accounted, logged⟩
  · exact Or.inl ⟨sameWritten.trans unwritten, sameRecorded.trans unrecorded⟩
  · exact Or.inr ⟨write, entry, sameWritten.trans isWrite, sameRecorded.trans isEntry,
      accounted, kept entry logged⟩

theorem RecordPoint.frame (point : store.RecordPoint state pid program)
    (sameWritten : after.written pid = state.written pid)
    (sameRecorded : after.recorded pid = state.recorded pid)
    (kept : ∀ entry, store.logged state.state entry → store.logged after.state entry) :
    store.RecordPoint after pid program := by
  cases point with
  | before records unwritten unrecorded =>
      exact .before records (sameWritten.trans unwritten) (sameRecorded.trans unrecorded)
  | owing isWritten owes => exact .owing (sameWritten.trans isWritten) owes
  | ended ends settled => exact .ended ends (settled.frame sameWritten sameRecorded kept)

variable [DecidableEq Pid] {choice : Delivery × Time} {op : Op} {reply : Reply op}
  {reached : State}

/-- The items after a statement of a call that has written nothing yet, or whose
statement does not write. -/
theorem Balanced.items_advance (balanced : store.Balanced initial world)
    (executed : (store.database choice.2).execute op world.shared.state = .ok (reply, reached))
    (once : store.writes op → world.shared.written pid = none) :
    ∀ item, store.holds reached item →
      store.holds initial item ∨
        ∃ other write,
          (store.advance pid op reply reached world.shared).written other = some write ∧
            store.leaves write.op write.reply item := by
  intro item held
  rcases store.holds_after executed held with before | ⟨isWrite, leaves⟩
  · rcases balanced.items item before with first | ⟨other, write, isWritten, leaves⟩
    · exact Or.inl first
    · refine Or.inr ⟨other, write, ?_, leaves⟩
      cases writes : store.writes op with
      | false =>
          rw [advance_written_read writes]
          exact isWritten
      | true =>
          have different : other ≠ pid := by
            rintro rfl
            rw [once writes] at isWritten
            cases isWritten
          rw [advance_written_other different]
          exact isWritten
  · exact Or.inr ⟨pid, ⟨op, reply⟩, advance_written_write isWrite, leaves⟩

/-- One call moves to its next point and leaves the others at theirs. -/
theorem Balanced.move {next : Program Op Reply Error Result}
    (balanced : store.Balanced initial world)
    (items : ∀ item, store.holds after.state item →
      store.holds initial item ∨
        ∃ other write, after.written other = some write ∧
          store.leaves write.op write.reply item)
    (sameWritten : ∀ other, other ≠ pid → after.written other = world.shared.written other)
    (sameRecorded : ∀ other, other ≠ pid →
      after.recorded other = world.shared.recorded other)
    (kept : ∀ entry, store.logged world.shared.state entry → store.logged after.state entry)
    (arrived : store.RecordPoint after pid next) :
    store.Balanced initial
      { shared := after, programs := Function.update world.programs pid (some next) } where
  items := items
  points := by
    intro other program running
    rcases update_cases running with ⟨rfl, moved⟩ | ⟨different, before⟩
    · cases moved
      exact arrived
    · exact (balanced.points other program before).frame (sameWritten other different)
        (sameRecorded other different) kept
  crashed := by
    intro other crashed
    rcases update_cases crashed with ⟨-, moved⟩ | ⟨different, before⟩
    · cases moved
    · exact (balanced.crashed other before).frame (sameWritten other different)
        (sameRecorded other different) kept

/-- A statement that has no effect. -/
theorem Balanced.stay {next : Program Op Reply Error Result}
    (balanced : store.Balanced initial world)
    (arrived : store.RecordPoint world.shared pid next) :
    store.Balanced initial
      { shared := world.shared
        programs := Function.update world.programs pid (some next) } :=
  balanced.move balanced.items (fun _ _ => rfl) (fun _ _ => rfl) (fun _ logged => logged)
    arrived

/-- A statement that takes effect. -/
theorem Balanced.advance {next : Program Op Reply Error Result}
    (balanced : store.Balanced initial world)
    (executed : (store.database choice.2).execute op world.shared.state = .ok (reply, reached))
    (once : store.writes op → world.shared.written pid = none)
    (arrived : store.RecordPoint (store.advance pid op reply reached world.shared) pid next) :
    store.Balanced initial
      { shared := store.advance pid op reply reached world.shared
        programs := Function.update world.programs pid (some next) } :=
  balanced.move (balanced.items_advance executed once)
    (fun _ different => advance_written_other different)
    (fun _ different => advance_recorded_other different)
    (fun _ logged => store.logged_kept executed logged) arrived

/-- The next statement of a call has no effect: it does not record a write. -/
theorem Balanced.unserved {next : Except Error (Reply op) → Program Op Reply Error Result}
    (balanced : store.Balanced initial world)
    (running : world.programs pid = some (.perform op next))
    (delivers : store.Delivers choice op world.shared.state)
    (noEffect : (store.database choice.2).effect choice.1 op world.shared.state = none)
    (error : Error) :
    store.Balanced initial
      { shared := world.shared
        programs := Function.update world.programs pid (some (next (.error error))) } := by
  have point := balanced.points pid _ running
  generalize current : Program.perform op next = program at point
  apply balanced.stay
  cases point with
  | before records unwritten unrecorded =>
      cases records with
      | done | fail => cases current
      | read onlyReads noRecord rest =>
          cases current
          exact .before (rest _) unwritten unrecorded
      | write isWrite noRecord ends records =>
          cases current
          exact .ended (ends error) (Or.inl ⟨unwritten, unrecorded⟩)
  | owing isWritten owes =>
      cases owes with
      | next isRecord onlyRecords accounted ends =>
          cases current
          have takesEffect := delivers.2 (Option.isSome_of_eq_some isRecord)
          rw [noEffect] at takesEffect
          cases takesEffect
  | ended ends settled =>
      cases current
      cases ends

/-- The next statement of a call takes effect: a write is answered. -/
theorem Balanced.served {next : Except Error (Reply op) → Program Op Reply Error Result}
    {reply : Reply op} {answer : Except Error (Reply op)}
    (balanced : store.Balanced initial world)
    (running : world.programs pid = some (.perform op next))
    (delivers : store.Delivers choice op world.shared.state)
    (executed : (store.database choice.2).execute op world.shared.state = .ok (reply, reached))
    (effect : (store.database choice.2).effect choice.1 op world.shared.state = some reply)
    (outcome : answer = .ok reply ∨
      answer = .error (store.database choice.2).disconnected ∧ choice.1 = .unacknowledged) :
    store.Balanced initial
      { shared := store.advance pid op reply reached world.shared
        programs := Function.update world.programs pid (some (next answer)) } := by
  have point := balanced.points pid _ running
  generalize current : Program.perform op next = program at point
  cases point with
  | before records unwritten unrecorded =>
      apply balanced.advance executed fun _ => unwritten
      cases records with
      | done | fail => cases current
      | read onlyReads noRecord rest =>
          cases current
          refine .before (rest _) ?_ ?_
          · rw [advance_written_read onlyReads]
            exact unwritten
          · rw [advance_recorded_none noRecord]
            exact unrecorded
      | write isWrite noRecord ends records =>
          cases current
          have isAnswered : choice.1 = .answered :=
            delivers.1 isWrite (Option.isSome_of_eq_some effect)
          rcases outcome with rfl | ⟨-, lost⟩
          · exact .owing (advance_written_write isWrite) (records reply)
          · rw [isAnswered] at lost
            cases lost
  | owing isWritten owes =>
      cases owes with
      | @next record following entry isRecord onlyRecords accounted ends =>
          cases current
          apply balanced.advance executed
          · intro isWrite
            rw [onlyRecords] at isWrite
            cases isWrite
          refine .ended (ends _) (Or.inr ⟨_, entry, ?_, ?_, accounted, ?_⟩)
          · rw [advance_written_read onlyRecords]
            exact isWritten
          · exact advance_recorded_entry isRecord
          · exact store.logged_after executed isRecord
  | ended ends settled =>
      cases current
      cases ends

/-- The next statement of a call at its point, delivered. -/
theorem Balanced.serve {next : Except Error (Reply op) → Program Op Reply Error Result}
    (balanced : store.Balanced initial world)
    (running : world.programs pid = some (.perform op next))
    (delivers : store.Delivers choice op world.shared.state) :
    store.Balanced initial
      { shared := (store.serve pid choice op world.shared).2
        programs := Function.update world.programs pid
          (some (next (store.serve pid choice op world.shared).1)) } := by
  rcases serve_cases store pid choice op world.shared with
    ⟨error, failed, noEffect⟩ | ⟨reply, reached, answer, executed, effect, served, outcome⟩
  · rw [failed]
    exact balanced.unserved running delivers noEffect error
  · rw [served]
    exact balanced.served running delivers executed effect outcome

/-- The step lemma. -/
theorem Balanced.step {event : Event Pid (Delivery × Time)}
    (balanced : store.Balanced initial world) (delivered : store.Delivered world event) :
    store.Balanced initial (world.step (store.server Pid) event) := by
  cases event with
  | disconnect pid => exact { balanced with }
  | crash pid =>
      refine { balanced with points := ?_, crashed := ?_ }
      · intro other program running
        exact balanced.points other program (of_update_none running)
      · intro other crashed
        rcases update_cases crashed with ⟨rfl, -⟩ | ⟨-, before⟩
        · cases left : world.programs other with
          | none => exact balanced.crashed other left
          | some program =>
              have point := balanced.points other program left
              cases point with
              | before records unwritten unrecorded => exact Or.inl ⟨unwritten, unrecorded⟩
              | owing isWritten owes =>
                  cases owes with
                  | next isRecord onlyRecords accounted ends =>
                      have noRecord := delivered
                      simp only [Delivered, left, isRecord] at noRecord
                      cases noRecord
              | ended ends settled => exact settled
        · exact balanced.crashed other before
  | statement pid choice =>
      apply World.statement_preserves balanced
      intro op next reply reached running answered
      have delivers : store.Delivers choice op world.shared.state := by
        have condition := delivered
        simp only [Delivered, running] at condition
        exact condition
      have outcome : store.serve pid choice op world.shared = (reply, reached) :=
        Option.some.inj answered
      have served := balanced.serve running delivers
      rw [outcome] at served
      exact served

end Invariant

/-- In every schedule in which the statements are delivered, whatever is written
is recorded. -/
theorem accounted_run [DecidableEq Pid]
    (store : RecordedStore Time State Op Reply Error Item Entry) (initial : State)
    {programs : Pid → Program Op Reply Error Result}
    (records : ∀ pid, store.Records (programs pid))
    {events : List (Event Pid (Delivery × Time))}
    (every : EveryStep (World.step (store.server Pid)) store.Delivered
      (start Entry initial programs) events) :
    store.Accounted initial
      (run (World.step (store.server Pid)) (start Entry initial programs) events) := by
  apply Balanced.accounted
  have balanced : ∀ (world : RecordedWorld Pid State Entry Reply Error Result) event,
      store.Balanced initial world → store.Delivered world event →
        store.Balanced initial (world.step (store.server Pid) event) :=
    fun _ _ balanced delivered => balanced.step delivered
  refine run_invariant balanced ?_ every
  exact
    { items := fun _ held => Or.inl held
      points := by
        intro pid program running
        obtain rfl : programs pid = program := Option.some.inj running
        exact .before (records pid) rfl rfl
      crashed := fun _ crashed => by cases crashed }

end RecordedStore

end PlatformArchitecture.Foundations
