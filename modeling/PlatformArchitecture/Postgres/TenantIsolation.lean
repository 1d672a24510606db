import PlatformArchitecture.Postgres.TenantTransactions

/-!
# Isolation of tenants

Over any schedule of calls on a pool of connections, with failures, lost
connections and crashes, a role that is held to the policies sees and changes
rows of a tenant only inside `tenantTransaction` for that tenant.  Neither a
setting nor a transaction is left behind on a connection that goes back.
-/

namespace PlatformArchitecture.Postgres

open PlatformArchitecture.Foundations
open PlatformArchitecture.Security

/-! ## The rest of the program at each stage -/

section Stages

variable {Session Answer : Type}

private def settleSql (outcome : Except SqlError Answer) : SqlProgram Session Answer Answer :=
  match outcome with
  | .ok answer => .done answer
  | .error error => .fail error

private def returnClient (client : Session) (outcome : Except SqlError Answer) :
    SqlProgram Session Answer Answer :=
  .branch (.release client) (fun _ => settleSql outcome) .fail

private def undoSql (client : Session) (error : SqlError) : SqlProgram Session Answer Answer :=
  .branch (.rollback client) (fun _ => returnClient client (.error error))
    fun failure => returnClient client (.error failure)

private def commitSql (client : Session) (value : Answer) : SqlProgram Session Answer Answer :=
  .branch (.commit client) (fun _ => returnClient client (.ok value)) (undoSql client)

/-- What is left of a call whose function has come as far as `rest`. -/
private def work (client : Session) (rest : RowProgram Answer) :
    SqlProgram Session Answer Answer :=
  ((onClient client rest >>= fun value => Program.branch (.commit client)
    (fun _ => .done value) .fail).orElse fun error =>
      Program.branch (.rollback client) (fun _ => .fail error) .fail).finallyDo
    (awaitSql (.release client))

private def enterTenant (client : Session) (ctx : TenantContext) (fn : RowProgram Answer) :
    SqlProgram Session Answer Answer :=
  .branch (.setTenant client ctx.tenantId (ctx.workspaceId.getD "")) (fun _ => work client fn)
    (undoSql client)

/-- What follows `SET LOCAL statement_timeout`. -/
private def enter (call : DatabaseCall Answer) (client : Session) :
    SqlProgram Session Answer Answer :=
  match call with
  | .query _ => .fail .query
  | .transaction fn => work client fn
  | .tenantTransaction ctx fn => enterTenant client ctx fn

private def limit (timeout : String) (call : DatabaseCall Answer) (client : Session) :
    SqlProgram Session Answer Answer :=
  .branch (.setLocalTimeout client timeout) (fun _ => enter call client) (undoSql client)

private def openSql (timeout : String) (call : DatabaseCall Answer) (client : Session) :
    SqlProgram Session Answer Answer :=
  match call with
  | .query statement =>
      .branch (.rows client statement) (fun answer => returnClient client (.ok answer))
        fun error => returnClient client (.error error)
  | _ => .branch (.begin client) (fun _ => limit timeout call client) (undoSql client)

/-- Where a call stands. -/
inductive SqlStage (Session Answer : Type) where
  | connecting
  | opening (client : Session)
  | limiting (client : Session)
  | entering (client : Session)
  | working (client : Session) (rest : RowProgram Answer)
  | undoing (client : Session) (error : SqlError)
  | releasing (client : Session) (outcome : Except SqlError Answer)
  | ended (outcome : Except SqlError Answer)

/-- What is left of the program of a call at a stage. -/
def SqlStage.program (timeout : String) (call : DatabaseCall Answer) :
    SqlStage Session Answer → SqlProgram Session Answer Answer
  | .connecting => .branch .connect (openSql timeout call) .fail
  | .opening client => openSql timeout call client
  | .limiting client => limit timeout call client
  | .entering client => enter call client
  | .working client rest => work client rest
  | .undoing client error => undoSql client error
  | .releasing client outcome => returnClient client outcome
  | .ended outcome => settleSql outcome

theorem databaseCall_eq (timeout : String) (call : DatabaseCall Answer) :
    (call.program timeout : SqlProgram Session Answer Answer) =
      SqlStage.connecting.program timeout call := by
  cases call with
  | query statement =>
      simp only [DatabaseCall.program, databaseQuery, awaitSql, Program.call, Program.branch_bind,
        Program.branch_finallyDo, Program.done_finallyDo, Program.fail_finallyDo,
        Program.done_bind, Program.fail_bind]
      rfl
  | transaction fn =>
      simp only [DatabaseCall.program, transaction, awaitSql, Program.call, Program.branch_bind,
        Program.branch_orElse, Program.branch_finallyDo, Program.fail_finallyDo,
        Program.done_bind, Program.fail_bind, Program.fail_orElse, Program.pure_eq,
        Program.throw_eq]
      rfl
  | tenantTransaction ctx fn =>
      simp only [DatabaseCall.program, tenantTransaction, transaction, awaitSql, Program.call,
        Program.branch_bind, Program.branch_orElse, Program.branch_finallyDo,
        Program.fail_finallyDo, Program.done_bind, Program.fail_bind, Program.fail_orElse,
        Program.pure_eq, Program.throw_eq]
      rfl

/-- The function of a call issues its next statement, or has come to its end. -/
theorem work_cases (client : Session) (rest : RowProgram Answer) :
    (∃ statement next, rest = .perform statement next ∧
        work client rest = .perform (.rows client statement) fun reply =>
          work client (next reply)) ∨
      (∃ value, work client rest = commitSql client value) ∨
      ∃ error, work client rest = undoSql client error := by
  cases rest with
  | perform statement next => exact Or.inl ⟨statement, next, rfl, rfl⟩
  | done value =>
      refine Or.inr (Or.inl ⟨value, ?_⟩)
      simp only [work, onClient, Program.embed, awaitSql, Program.call, Program.done_bind,
        Program.branch_orElse, Program.done_orElse, Program.fail_orElse,
        Program.branch_finallyDo, Program.done_finallyDo, Program.fail_finallyDo,
        Program.branch_bind, Program.fail_bind]
      rfl
  | fail error =>
      refine Or.inr (Or.inr ⟨error, ?_⟩)
      simp only [work, onClient, Program.embed, awaitSql, Program.call, Program.fail_bind,
        Program.fail_orElse, Program.branch_finallyDo, Program.fail_finallyDo,
        Program.branch_bind]
      rfl

end Stages

/-! ## Rows of a tenant -/

def rowsOf (tenantId : String) (table : List ResourceRow) : List ResourceRow :=
  table.filter fun row => row.tenantId.text = tenantId

def RowChange.rows (change : RowChange) : List ResourceRow :=
  change.before.toList ++ change.after.toList

/-- A change of rows of another tenant. -/
theorem rowsOf_applyRowChange {tenantId : String} {change : RowChange}
    (foreign : ∀ row ∈ change.rows, row.tenantId.text ≠ tenantId) (table : List ResourceRow) :
    rowsOf tenantId (applyRowChange table change) = rowsOf tenantId table := by
  have added : (change.after.toList.filter fun row => row.tenantId.text = tenantId) = [] := by
    apply List.filter_eq_nil_iff.mpr
    intro row member
    simpa using foreign row (List.mem_append_right _ member)
  unfold applyRowChange
  cases target : change.before with
  | none => simp [rowsOf, added]
  | some row =>
      have isForeign : row.tenantId.text ≠ tenantId :=
        foreign row (List.mem_append_left _ (by simp [target]))
      have removed : (table.erase row).filter (fun row => row.tenantId.text = tenantId) =
          table.filter fun row => row.tenantId.text = tenantId := by
        rw [← List.erase_filter]
        apply List.erase_of_not_mem
        simp [isForeign]
      by_cases present : table.contains row = true
      · simp only [present, if_true, rowsOf, List.filter_append, removed, added,
          List.append_nil]
      · simp only [present, Bool.false_eq_true, if_false]

theorem rowsOf_foldl {tenantId : String} {changes : List RowChange}
    (foreign : ∀ change ∈ changes, ∀ row ∈ change.rows, row.tenantId.text ≠ tenantId)
    (table : List ResourceRow) :
    rowsOf tenantId (changes.foldl applyRowChange table) = rowsOf tenantId table := by
  induction changes generalizing table with
  | nil => rfl
  | cons change rest inductionHypothesis =>
      have here := foreign change List.mem_cons_self
      have later := fun other member => foreign other (List.mem_cons_of_mem _ member)
      rw [List.foldl_cons, inductionHypothesis later, rowsOf_applyRowChange here]

/-! ## Settings and policies -/

/-- No session has a tenant of its own. -/
def TenantSetting.Unscoped (setting : TenantSetting) : Prop :=
  setting.base = none ∨ setting.base = some ""

theorem TenantSetting.Unscoped.settle {setting : TenantSetting} (unscoped : setting.Unscoped) :
    setting.settle.Unscoped := by
  unfold TenantSetting.settle
  cases setting.transactional with
  | none => exact unscoped
  | some tenantId =>
      rcases unscoped with none | empty
      · exact Or.inr (by rw [none]; rfl)
      · exact Or.inr (by rw [empty]; rfl)

@[simp]
theorem TenantSetting.transactional_settle (setting : TenantSetting) :
    setting.settle.transactional = none := by
  unfold TenantSetting.settle
  cases found : setting.transactional with
  | none => exact found
  | some tenantId => rfl

/-- A row passes the policy when the open transaction is set to its tenant. -/
theorem TenantSetting.Unscoped.transactional_of_passes {setting : TenantSetting}
    (unscoped : setting.Unscoped) {row : ResourceRow}
    (passes : passesPolicy false setting row = true) :
    setting.transactional = some row.tenantId.text := by
  have current : setting.current = some row.tenantId.text := by
    simpa [passesPolicy] using passes
  unfold TenantSetting.current at current
  cases found : setting.transactional with
  | some tenantId =>
      rw [found] at current
      exact current
  | none =>
      rw [found] at current
      rcases unscoped with none | empty
      · rw [none] at current
        cases current
      · rw [empty] at current
        exact absurd (Option.some.inj current).symm row.tenantId.notEmpty

section Judge

variable {Session Answer : Type} [DecidableEq Session]

/-- What a statement changes has passed the policy. -/
theorem passes_of_judgeRows {owner : Bool} {setting : TenantSetting}
    {statement : RowStatement Answer} {client : Session} {store : ResourceStore Session}
    {opened : Transaction RowChange} {answer : Answer} {changes : List RowChange}
    (accepted : judgeRows owner setting statement client store opened =
      .accept answer changes) :
    ∀ change ∈ changes, ∀ row ∈ change.rows, passesPolicy owner setting row = true := by
  unfold judgeRows at accepted
  dsimp only at accepted
  split at accepted
  · cases accepted
  · next allPass =>
      split at accepted
      · cases accepted
      · cases accepted
        intro change member row isRow
        have reached := (List.mem_filter.mp member).2
        rcases List.mem_append.mp isRow with target | new
        · cases isTarget : change.before with
          | none =>
              rw [isTarget] at target
              cases target
          | some found =>
              rw [isTarget] at target reached
              have same : row = found := by simpa using target
              have visible : found ∈ opened.pending.foldl applyRowChange store.table ∧
                  passesPolicy owner setting found = true := by simpa using reached
              rw [same]
              exact visible.2
        · cases isNew : change.after with
          | none =>
              rw [isNew] at new
              cases new
          | some found =>
              rw [isNew] at new
              have same : row = found := by simpa using new
              have passes : change.after.all (passesPolicy owner setting) = true := by
                by_contra fails
                apply allPass
                exact List.any_eq_true.mpr ⟨change, member, by simpa using fails⟩
              rw [isNew] at passes
              rw [same]
              simpa using passes

end Judge

/-! ## The invariant -/

section Invariant

variable {Pid Session Answer : Type} [DecidableEq Pid] [DecidableEq Session]

/-- A call is a transaction of a tenant. -/
def DatabaseCall.IsOf (call : DatabaseCall Answer) (tenantId : String) : Prop :=
  ∃ ctx fn, call = .tenantTransaction ctx fn ∧ ctx.tenantId = tenantId

/-- A session is set to a tenant only in a transaction that the tenant's call
has on it, and what is pending there is of the tenant. -/
structure SessionSound (calls : Pid → DatabaseCall Answer) (state : TenantState Pid Session)
    (client : Session) : Prop where
  unscoped : (state.settings client).Unscoped
  ofCall : ∀ tenantId, (state.settings client).transactional = some tenantId →
    ∃ pid, state.clients.itemOf pid = some client ∧ (calls pid).IsOf tenantId
  closed : state.store.transaction client = none → (state.settings client).transactional = none
  pending : ∀ opened, state.store.transaction client = some opened →
    ∀ change ∈ opened.pending, ∀ row ∈ change.rows,
      (state.settings client).transactional = some row.tenantId.text

/-- A session that nobody has, or that has ended, has no transaction. -/
structure TenantInvariant (calls : Pid → DatabaseCall Answer)
    (state : TenantState Pid Session) : Prop where
  sound : ∀ client, SessionSound calls state client
  idle : ∀ client, (∀ pid, state.clients.itemOf pid ≠ some client) →
    state.store.transaction client = none
  ended : ∀ client ∈ state.ended, state.store.transaction client = none

/-- What is known of a call at a stage. -/
def SqlStage.Holds (call : DatabaseCall Answer) (pid : Pid) (state : TenantState Pid Session) :
    SqlStage Session Answer → Prop
  | .connecting | .ended _ => state.clients.itemOf pid = none
  | .opening client =>
      state.clients.itemOf pid = some client ∧ state.store.transaction client = none
  | .limiting client | .entering client =>
      state.clients.itemOf pid = some client ∧
        (state.settings client).transactional = none ∧ ∀ statement, call ≠ .query statement
  | .working client _ | .undoing client _ => state.clients.itemOf pid = some client
  | .releasing client _ =>
      state.clients.itemOf pid = some client ∧ state.store.transaction client = none

/-- The rest of the program of a call is that of a stage whose facts hold. -/
def AtSqlStage (timeout : String) (calls : Pid → DatabaseCall Answer) (pid : Pid)
    (state : TenantState Pid Session) (program : SqlProgram Session Answer Answer) : Prop :=
  ∃ stage : SqlStage Session Answer,
    stage.program timeout (calls pid) = program ∧ stage.Holds (calls pid) pid state

/-- What a call relies on when others move: its client is still its own, and
has no transaction and no setting that it had not. -/
structure TenantFrame (pid : Pid) (before after : TenantState Pid Session) : Prop where
  clients : after.clients.itemOf pid = before.clients.itemOf pid
  closed : ∀ client, before.clients.itemOf pid = some client →
    before.store.transaction client = none → after.store.transaction client = none
  unset : ∀ client, before.clients.itemOf pid = some client →
    (before.settings client).transactional = none →
      (after.settings client).transactional = none

theorem AtSqlStage.frame {timeout : String} {calls : Pid → DatabaseCall Answer} {pid : Pid}
    {before after : TenantState Pid Session} {program : SqlProgram Session Answer Answer}
    (frame : TenantFrame pid before after)
    (standing : AtSqlStage timeout calls pid before program) :
    AtSqlStage timeout calls pid after program := by
  obtain ⟨stage, same, holds⟩ := standing
  refine ⟨stage, same, ?_⟩
  cases stage with
  | connecting => exact frame.clients.trans holds
  | ended outcome => exact frame.clients.trans holds
  | opening client =>
      exact ⟨frame.clients.trans holds.1, frame.closed client holds.1 holds.2⟩
  | limiting client =>
      exact ⟨frame.clients.trans holds.1, frame.unset client holds.1 holds.2.1, holds.2.2⟩
  | entering client =>
      exact ⟨frame.clients.trans holds.1, frame.unset client holds.1 holds.2.1, holds.2.2⟩
  | working client rest => exact frame.clients.trans holds
  | undoing client error => exact frame.clients.trans holds
  | releasing client outcome =>
      exact ⟨frame.clients.trans holds.1, frame.closed client holds.1 holds.2⟩

/-- Only one session has changed, and it is still sound. -/
structure ClientMove (calls : Pid → DatabaseCall Answer) (client : Session)
    (before after : TenantState Pid Session) : Prop where
  clients : after.clients = before.clients
  transactions : TransactionalStore.SameElsewhere client before.store after.store
  settings : ∀ other, other ≠ client → after.settings other = before.settings other
  ended : ∀ other ∈ after.ended, other ∈ before.ended ∨
    (other = client ∧ after.store.transaction client = none)
  sound : SessionSound calls after client

variable {calls : Pid → DatabaseCall Answer} {state after : TenantState Pid Session}
  {client : Session} {pid : Pid} {timeout : String}

theorem TenantInvariant.move (holds : TenantInvariant calls state)
    (borrowed : state.clients.itemOf pid = some client)
    (endedClosed : client ∈ state.ended → after.store.transaction client = none)
    (move : ClientMove calls client state after) :
    TenantInvariant calls after ∧ ∀ other, other ≠ pid → TenantFrame other state after := by
  have elsewhere : ∀ other, other ≠ client → SessionSound calls after other := by
    intro other different
    have before := holds.sound other
    have sameSetting := move.settings other different
    have sameTransaction := move.transactions other different
    constructor
    · rw [sameSetting]
      exact before.unscoped
    · rw [sameSetting, move.clients]
      exact before.ofCall
    · rw [sameSetting, sameTransaction]
      exact before.closed
    · rw [sameSetting, sameTransaction]
      exact before.pending
  refine ⟨⟨?_, ?_, ?_⟩, ?_⟩
  · intro other
    by_cases same : other = client
    · rw [same]
      exact move.sound
    · exact elsewhere other same
  · intro other nobody
    rw [move.clients] at nobody
    have different : other ≠ client := fun same => nobody pid (same ▸ borrowed)
    rw [move.transactions other different]
    exact holds.idle other nobody
  · intro other member
    by_cases same : other = client
    · rw [same]
      rcases move.ended other member with before | ⟨_, closed⟩
      · exact endedClosed (same ▸ before)
      · exact closed
    · rw [move.transactions other same]
      apply holds.ended other
      exact (move.ended other member).resolve_right fun own => same own.1
  · intro other different
    have apart : ∀ session, state.clients.itemOf other = some session → session ≠ client := by
      intro session has same
      exact different (Lending.borrower_unique borrowed (same ▸ has))
    constructor
    · rw [move.clients]
    · intro session has closed
      rw [move.transactions session (apart session has)]
      exact closed
    · intro session has unset
      rw [move.settings session (apart session has)]
      exact unset

/-! ## What each statement does -/

/-- A call has issued a statement on its client. -/
structure SqlStep (calls : Pid → DatabaseCall Answer) (pid : Pid)
    (before after : TenantState Pid Session) : Prop where
  invariant : TenantInvariant calls after
  others : ∀ other, other ≠ pid → TenantFrame other before after
  clients : after.clients = before.clients
  changes : ∀ tenantId, rowsOf tenantId after.store.table ≠ rowsOf tenantId before.store.table →
    (calls pid).IsOf tenantId

theorem TenantInvariant.unchanged (holds : TenantInvariant calls state) :
    SqlStep calls pid state state :=
  ⟨holds, fun _ _ => ⟨rfl, fun _ _ closed => closed, fun _ _ unset => unset⟩, rfl,
    fun _ differ => absurd rfl differ⟩

/-- The transaction of a session is closed, and its setting with it. -/
theorem TenantInvariant.settle (holds : TenantInvariant calls state)
    (borrowed : state.clients.itemOf pid = some client) {store : ResourceStore Session}
    (elsewhere : TransactionalStore.SameElsewhere client state.store store)
    (closed : store.transaction client = none)
    (changes : ∀ tenantId, rowsOf tenantId store.table ≠ rowsOf tenantId state.store.table →
      (calls pid).IsOf tenantId) : SqlStep calls pid state (state.settled client store) := by
  have sameSettings : ∀ other, other ≠ client →
      (state.settled client store).settings other = state.settings other :=
    fun other different => Function.update_of_ne different _ _
  have ownSetting : (state.settled client store).settings client =
      (state.settings client).settle := Function.update_self client _ _
  have move : ClientMove calls client state (state.settled client store) := by
    refine ⟨rfl, elsewhere, sameSettings, fun other member => Or.inl member, ?_⟩
    constructor
    · rw [ownSetting]
      exact (holds.sound client).unscoped.settle
    · intro tenantId isSet
      rw [ownSetting, TenantSetting.transactional_settle] at isSet
      cases isSet
    · intro _
      rw [ownSetting, TenantSetting.transactional_settle]
    · intro opened found
      exact absurd (closed.symm.trans found) (by simp)
  obtain ⟨invariant, others⟩ := holds.move borrowed (fun _ => closed) move
  exact ⟨invariant, others, rfl, changes⟩

theorem TenantInvariant.endSession (holds : TenantInvariant calls state)
    (borrowed : state.clients.itemOf pid = some client) :
    SqlStep calls pid state (state.endSession client) := by
  have closed := state.store.withTransaction_self client none
  have step := holds.settle borrowed
    (TransactionalStore.sameElsewhere_withTransaction client state.store none) closed
    fun _ differ => absurd rfl differ
  refine ⟨⟨fun other => ?_, step.invariant.idle, ?_⟩, ?_, rfl, step.changes⟩
  · have sound := step.invariant.sound other
    exact ⟨sound.unscoped, sound.ofCall, sound.closed, sound.pending⟩
  · intro other member
    rcases List.mem_cons.mp member with rfl | before
    · exact closed
    · exact step.invariant.ended other before
  · intro other different
    have frame := step.others other different
    exact ⟨frame.clients, frame.closed, frame.unset⟩

/-- The transaction of a session has changed under the same setting. -/
theorem TenantInvariant.replaceStore (holds : TenantInvariant calls state)
    (borrowed : state.clients.itemOf pid = some client) (live : client ∉ state.ended)
    {store : ResourceStore Session}
    (elsewhere : TransactionalStore.SameElsewhere client state.store store)
    (closed : store.transaction client = none → (state.settings client).transactional = none)
    (pending : ∀ opened, store.transaction client = some opened →
      ∀ change ∈ opened.pending, ∀ row ∈ change.rows,
        (state.settings client).transactional = some row.tenantId.text)
    (changes : ∀ tenantId, rowsOf tenantId store.table = rowsOf tenantId state.store.table) :
    SqlStep calls pid state { state with store } := by
  have sound := holds.sound client
  have move : ClientMove calls client state { state with store } :=
    ⟨rfl, elsewhere, fun _ _ => rfl, fun _ member => Or.inl member,
      ⟨sound.unscoped, sound.ofCall, closed, pending⟩⟩
  obtain ⟨invariant, others⟩ := holds.move borrowed (fun ended => absurd ended live) move
  exact ⟨invariant, others, rfl, fun tenantId differ => absurd (changes tenantId) differ⟩

omit [DecidableEq Pid] in
/-- A statement of a session finds it gone, loses its connection or is
executed. -/
theorem onSession_cases {Reply : Type} {fault : Fault}
    {execute : Option (Except SqlError Reply × TenantState Pid Session)}
    {reply : Except SqlError Reply}
    (outcome : state.onSession client fault execute = some (reply, after)) :
    (reply = .error .query ∧ (after = state ∨ after = state.endSession client)) ∨
      (client ∉ state.ended ∧ fault ≠ .connectionLost ∧ execute = some (reply, after)) := by
  unfold TenantState.onSession at outcome
  split at outcome
  · cases outcome
    exact Or.inl ⟨rfl, Or.inl rfl⟩
  · next connected =>
      split at outcome
      · cases outcome
        exact Or.inl ⟨rfl, Or.inr rfl⟩
      · next kept => exact Or.inr ⟨by simpa using connected, kept, outcome⟩

theorem TenantInvariant.lost (holds : TenantInvariant calls state)
    (borrowed : state.clients.itemOf pid = some client)
    (left : after = state ∨ after = state.endSession client) : SqlStep calls pid state after := by
  rcases left with rfl | rfl
  · exact holds.unchanged
  · exact holds.endSession borrowed

/-- A session without a tenant changes no rows. -/
theorem SessionSound.rowsOf_unset (sound : SessionSound calls state client)
    (unset : (state.settings client).transactional = none) {changes : List RowChange}
    (pass : ∀ change ∈ changes, ∀ row ∈ change.rows,
      passesPolicy false (state.settings client) row = true) (tenantId : String) :
    rowsOf tenantId (changes.foldl applyRowChange state.store.table) =
      rowsOf tenantId state.store.table := by
  apply rowsOf_foldl
  intro change member row isRow
  have isSet := sound.unscoped.transactional_of_passes (pass change member row isRow)
  rw [unset] at isSet
  cases isSet

/-- What a transaction has pending after a statement are rows of the tenant it is
set to. -/
theorem SessionSound.pending_statement (sound : SessionSound calls state client)
    {fault : Fault} {statement : RowStatement Answer} {answer : Except SqlError Answer}
    {store : ResourceStore Session}
    (ran : state.store.statement SqlError.query
      (judgeRows false (state.settings client) statement client state.store) fault client =
        some (answer, store)) {opened : Transaction RowChange}
    (isOpened : store.transaction client = some opened) :
    ∀ change ∈ opened.pending, ∀ row ∈ change.rows,
      (state.settings client).transactional = some row.tenantId.text := by
  intro change member row isRow
  rcases TransactionalStore.statement_cases ran with
    ⟨found, value, effects, wasOpen, -, accepted, -, rfl⟩ |
      ⟨-, rfl | rfl | ⟨found, wasOpen, rfl⟩⟩
  · rw [TransactionalStore.withTransaction_self] at isOpened
    cases isOpened
    rcases List.mem_append.mp member with before | new
    · exact sound.pending found wasOpen change before row isRow
    · have passes := passes_of_judgeRows accepted change new row isRow
      exact sound.unscoped.transactional_of_passes passes
  · exact sound.pending opened isOpened change member row isRow
  · rw [TransactionalStore.withTransaction_self] at isOpened
    cases isOpened
  · rw [TransactionalStore.withTransaction_self] at isOpened
    cases isOpened
    exact sound.pending found wasOpen change member row isRow

/-- The rows that are changed in a session are those of its tenant. -/
theorem TenantInvariant.rows_step (holds : TenantInvariant calls state)
    (borrowed : state.clients.itemOf pid = some client) {fault : Fault}
    {statement : RowStatement Answer} {reply : Except SqlError Answer}
    (outcome : state.onSession client fault
      ((state.store.pooledStatement SqlError.query applyRowChange
        (judgeRows false (state.settings client) statement client state.store) fault client).map
        fun outcome => (outcome.1, { state with store := outcome.2 })) = some (reply, after)) :
    SqlStep calls pid state after ∧
      (state.store.transaction client = none → after.store.transaction client = none) := by
  have sound := holds.sound client
  rcases onSession_cases outcome with ⟨-, left⟩ | ⟨live, connected, executed⟩
  · refine ⟨holds.lost borrowed left, ?_⟩
    intro closed
    rcases left with rfl | rfl
    · exact closed
    · exact state.store.withTransaction_self client none
  · obtain ⟨⟨answer, store⟩, ran, same⟩ := Option.map_eq_some_iff.mp executed
    cases same
    cases opened : state.store.transaction client with
    | some transaction =>
        have isOpen : state.store.transaction client ≠ none := by simp [opened]
        have statementRan : state.store.statement SqlError.query
            (judgeRows false (state.settings client) statement client state.store) fault
              client = some (answer, store) := by
          simpa [TransactionalStore.pooledStatement, opened] using ran
        have stillOpen := TransactionalStore.statement_keepsOpen connected isOpen statementRan
        obtain ⟨sameTable, elsewhere⟩ := TransactionalStore.statement_frame statementRan
        refine ⟨?_, fun none => absurd none (by simp)⟩
        apply holds.replaceStore borrowed live elsewhere (fun closed => absurd closed stillOpen)
        · exact fun next isNext => sound.pending_statement statementRan isNext
        · intro tenantId
          rw [sameTable]
    | none =>
        have unset := sound.closed opened
        rcases TransactionalStore.pooledStatement_closed opened ran with
          rfl | ⟨value, effects, accepted, rfl⟩
        · exact ⟨holds.unchanged, fun _ => opened⟩
        · refine ⟨?_, fun _ => opened⟩
          apply holds.replaceStore borrowed live
          · exact fun _ _ => rfl
          · exact fun _ => unset
          · intro next isNext
            exact absurd (opened.symm.trans isNext) (by simp)
          · exact sound.rowsOf_unset unset (passes_of_judgeRows accepted)

/-- What a transaction commits are rows of the tenant it is set to. -/
theorem TenantInvariant.commit_step (holds : TenantInvariant calls state)
    (borrowed : state.clients.itemOf pid = some client) {fault : Fault}
    {reply : Except SqlError Unit}
    (outcome : state.onSession client fault
      (some ((state.store.pooledCommit SqlError.query applyRowChange fault client).1,
        state.settled client
          (state.store.pooledCommit SqlError.query applyRowChange fault client).2)) =
        some (reply, after)) :
    SqlStep calls pid state after ∧
      (reply = .ok () → after.store.transaction client = none) := by
  have sound := holds.sound client
  rcases onSession_cases outcome with ⟨failed, left⟩ | ⟨live, -, executed⟩
  · refine ⟨holds.lost borrowed left, ?_⟩
    intro answered
    rw [failed] at answered
    cases answered
  · obtain ⟨elsewhere, closed, table⟩ := TransactionalStore.pooledCommit_cases SqlError.query
      applyRowChange fault client state.store
    cases executed
    refine ⟨holds.settle borrowed elsewhere closed ?_, fun _ => closed⟩
    intro tenantId differ
    rcases table with same | ⟨transaction, opened, applied⟩
    · rw [same] at differ
      exact absurd rfl differ
    · by_contra foreign
      apply differ
      rw [applied]
      unfold TransactionalStore.applied
      split
      · rfl
      · apply rowsOf_foldl
        intro change member row isRow same
        obtain ⟨owner, has, isOf⟩ := sound.ofCall _
          (sound.pending transaction opened change member row isRow)
        have own := Lending.borrower_unique borrowed has
        exact foreign (same ▸ own ▸ isOf)

/-- A transaction that is rolled back changes nothing, and leaves its client
without one. -/
theorem TenantInvariant.rollback_step (holds : TenantInvariant calls state)
    (borrowed : state.clients.itemOf pid = some client) {fault : Fault}
    {reply : Except SqlError Unit}
    (outcome : state.onSession client fault
      (some ((state.store.pooledRollback SqlError.query fault client).1,
        state.settled client (state.store.pooledRollback SqlError.query fault client).2)) =
        some (reply, after)) :
    SqlStep calls pid state after ∧ after.store.transaction client = none := by
  obtain ⟨elsewhere, closed, table⟩ := TransactionalStore.pooledRollback_cases SqlError.query
    fault client state.store
  unfold TenantState.onSession at outcome
  split at outcome
  · next gone =>
      cases outcome
      exact ⟨holds.unchanged, holds.ended client (by simpa using gone)⟩
  · split at outcome
    · cases outcome
      exact ⟨holds.endSession borrowed, state.store.withTransaction_self client none⟩
    · cases outcome
      refine ⟨holds.settle borrowed elsewhere closed ?_, closed⟩
      intro tenantId differ
      rw [table] at differ
      exact absurd rfl differ

/-- A statement without rows leaves what is pending as it is. -/
theorem statement_withoutRows {store next : ResourceStore Session} {fault : Fault}
    {reply : Except SqlError Unit} (connected : fault ≠ .connectionLost)
    (outcome : store.statement SqlError.query (fun _ => .accept () []) fault client =
      some (reply, next)) :
    TransactionalStore.SameElsewhere client store next ∧ next.table = store.table ∧
      (next.transaction client = none → store.transaction client = none) ∧
      ∀ opened, next.transaction client = some opened →
        ∃ before, store.transaction client = some before ∧ opened.pending = before.pending := by
  obtain ⟨sameTable, elsewhere⟩ := TransactionalStore.statement_frame outcome
  refine ⟨elsewhere, sameTable, ?_, ?_⟩
  · intro closed
    by_contra isOpen
    exact TransactionalStore.statement_keepsOpen connected isOpen outcome closed
  · intro opened isOpen
    rcases TransactionalStore.statement_cases outcome with
      ⟨found, value, effects, wasOpen, -, accepted, -, rfl⟩ |
        ⟨-, rfl | rfl | ⟨found, wasOpen, rfl⟩⟩
    · rw [TransactionalStore.withTransaction_self] at isOpen
      cases accepted
      cases isOpen
      exact ⟨found, wasOpen, List.append_nil _⟩
    · exact ⟨opened, isOpen, rfl⟩
    · rw [TransactionalStore.withTransaction_self] at isOpen
      cases isOpen
    · rw [TransactionalStore.withTransaction_self] at isOpen
      cases isOpen
      exact ⟨found, wasOpen, rfl⟩

/-- What is pending stays with the tenant the session is set to. -/
theorem SessionSound.pending_withoutRows (sound : SessionSound calls state client)
    {fault : Fault} {reply : Except SqlError Unit} {store : ResourceStore Session}
    (connected : fault ≠ .connectionLost)
    (ran : state.store.statement SqlError.query (fun _ => .accept () []) fault client =
      some (reply, store)) {opened : Transaction RowChange}
    (isOpened : store.transaction client = some opened) :
    ∀ change ∈ opened.pending, ∀ row ∈ change.rows,
      (state.settings client).transactional = some row.tenantId.text := by
  intro change member
  obtain ⟨-, -, -, pending⟩ := statement_withoutRows connected ran
  obtain ⟨before, wasOpen, samePending⟩ := pending opened isOpened
  exact sound.pending before wasOpen change (samePending ▸ member)

omit [DecidableEq Pid] in
/-- A session that ends has no tenant. -/
theorem unset_of_lost (unset : (state.settings client).transactional = none)
    (left : after = state ∨ after = state.endSession client) :
    (after.settings client).transactional = none := by
  rcases left with rfl | rfl
  · exact unset
  · simp [TenantState.endSession, TenantState.settled, TenantState.withSetting]

/-- A transaction that begins has nothing pending and no tenant. -/
theorem TenantInvariant.begin_step (holds : TenantInvariant calls state)
    (borrowed : state.clients.itemOf pid = some client)
    (unset : (state.settings client).transactional = none) {fault : Fault}
    {reply : Except SqlError Unit}
    (outcome : state.onSession client fault
      (some ((state.store.begin SqlError.query fault client).1,
        { state with store := (state.store.begin SqlError.query fault client).2 })) =
        some (reply, after)) :
    SqlStep calls pid state after ∧ (after.settings client).transactional = none := by
  rcases onSession_cases outcome with ⟨-, left⟩ | ⟨live, -, executed⟩
  · exact ⟨holds.lost borrowed left, unset_of_lost unset left⟩
  · cases executed
    refine ⟨?_, unset⟩
    obtain ⟨sameTable, elsewhere⟩ := TransactionalStore.begin_frame SqlError.query fault client
      state.store
    apply holds.replaceStore borrowed live elsewhere
    · exact fun _ => unset
    · intro opened isOpen change member
      rcases TransactionalStore.begin_cases SqlError.query fault client state.store with
        began | failed
      · rw [began, TransactionalStore.withTransaction_self] at isOpen
        cases isOpen
        cases member
      · rw [failed] at isOpen
        exact (holds.sound client).pending opened isOpen change member
    · intro tenantId
      rw [sameTable]

theorem TenantInvariant.limit_step (holds : TenantInvariant calls state)
    (borrowed : state.clients.itemOf pid = some client)
    (unset : (state.settings client).transactional = none) {fault : Fault}
    {reply : Except SqlError Unit}
    (outcome : state.onSession client fault
      ((state.store.statement SqlError.query (fun _ => .accept () []) fault client).map
        fun outcome => (outcome.1, { state with store := outcome.2 })) = some (reply, after)) :
    SqlStep calls pid state after ∧ (after.settings client).transactional = none := by
  rcases onSession_cases outcome with ⟨-, left⟩ | ⟨live, connected, executed⟩
  · exact ⟨holds.lost borrowed left, unset_of_lost unset left⟩
  · obtain ⟨⟨answer, store⟩, ran, same⟩ := Option.map_eq_some_iff.mp executed
    cases same
    obtain ⟨elsewhere, sameTable, -, -⟩ := statement_withoutRows connected ran
    refine ⟨holds.replaceStore borrowed live elsewhere (fun _ => unset) ?_ ?_, unset⟩
    · exact fun opened isOpen => (holds.sound client).pending_withoutRows connected ran isOpen
    · intro tenantId
      rw [sameTable]

/-- An open transaction without pending rows is set to a tenant of its call. -/
theorem TenantInvariant.withSetting_step (holds : TenantInvariant calls state)
    (borrowed : state.clients.itemOf pid = some client) (live : client ∉ state.ended)
    {tenantId : String} (isOf : (calls pid).IsOf tenantId) {store : ResourceStore Session}
    (elsewhere : TransactionalStore.SameElsewhere client state.store store)
    (sameTable : store.table = state.store.table)
    (isOpen : store.transaction client ≠ none)
    (nothingPending : ∀ opened, store.transaction client = some opened →
      ∀ change ∈ opened.pending, ∀ row, row ∉ change.rows) :
    SqlStep calls pid state
      { state.withSetting client ⟨(state.settings client).base, some tenantId⟩ with store } := by
  have ownSetting : Function.update state.settings client
      ⟨(state.settings client).base, some tenantId⟩ client =
        ⟨(state.settings client).base, some tenantId⟩ := Function.update_self client _ _
  have move : ClientMove calls client state
      { state.withSetting client ⟨(state.settings client).base, some tenantId⟩ with store } := by
    refine ⟨rfl, elsewhere, fun other different => Function.update_of_ne different _ _,
      fun _ member => Or.inl member, ?_, ?_, ?_, ?_⟩
    · simp only [TenantState.withSetting, ownSetting]
      exact (holds.sound client).unscoped
    · intro other isSet
      simp only [TenantState.withSetting, ownSetting] at isSet
      cases isSet
      exact ⟨pid, borrowed, isOf⟩
    · exact fun none => absurd none isOpen
    · intro opened isOpened change member row isRow
      exact absurd isRow (nothingPending opened isOpened change member row)
  obtain ⟨invariant, others⟩ := holds.move borrowed (fun ended => absurd ended live) move
  exact ⟨invariant, others, rfl, fun other differ => absurd (by rw [sameTable]) differ⟩

/-- The setting of a tenant's own call. -/
theorem TenantInvariant.setTenant_step (holds : TenantInvariant calls state)
    (borrowed : state.clients.itemOf pid = some client)
    (unset : (state.settings client).transactional = none) {tenantId : String}
    (isOf : (calls pid).IsOf tenantId) {fault : Fault} {reply : Except SqlError Unit}
    (outcome : state.onSession client fault
      ((state.store.statement SqlError.query (fun _ => .accept () []) fault client).map
        fun outcome =>
          match outcome.1 with
          | .ok () =>
              (.ok (),
                { state.withSetting client ⟨(state.settings client).base, some tenantId⟩ with
                  store := outcome.2 })
          | .error error => (.error error, { state with store := outcome.2 })) =
        some (reply, after)) :
    SqlStep calls pid state after := by
  have sound := holds.sound client
  rcases onSession_cases outcome with ⟨-, left⟩ | ⟨live, connected, executed⟩
  · exact holds.lost borrowed left
  · obtain ⟨⟨answer, store⟩, ran, same⟩ := Option.map_eq_some_iff.mp executed
    obtain ⟨elsewhere, sameTable, closed, -⟩ := statement_withoutRows connected ran
    cases answer with
    | error error =>
        cases same
        apply holds.replaceStore borrowed live elsewhere
        · exact fun none => sound.closed (closed none)
        · exact fun opened isOpen => sound.pending_withoutRows connected ran isOpen
        · intro tenantId
          rw [sameTable]
    | ok value =>
        cases same
        have stillOpen : store.transaction client ≠ none := by
          rcases TransactionalStore.statement_cases ran with
            ⟨_, _, _, _, _, _, _, rfl⟩ | ⟨failed, -⟩
          · simp
          · cases failed
        apply holds.withSetting_step borrowed live isOf elsewhere sameTable stillOpen
        intro opened isOpen change member row isRow
        have isSet := sound.pending_withoutRows connected ran isOpen change member row isRow
        rw [unset] at isSet
        cases isSet

/-- A client that goes back has no transaction. -/
theorem TenantInvariant.release_step (holds : TenantInvariant calls state)
    (borrowed : state.clients.itemOf pid = some client)
    (closed : state.store.transaction client = none) :
    TenantInvariant calls { state with clients := state.clients.giveBack pid } ∧
      ∀ other, other ≠ pid →
        TenantFrame other state { state with clients := state.clients.giveBack pid } := by
  refine ⟨⟨?_, ?_, holds.ended⟩, ?_⟩
  · intro session
    have sound := holds.sound session
    refine ⟨sound.unscoped, ?_, sound.closed, sound.pending⟩
    intro tenantId isSet
    obtain ⟨owner, has, isOf⟩ := sound.ofCall tenantId isSet
    by_cases own : owner = pid
    · rw [own, borrowed] at has
      cases has
      have unset := sound.closed closed
      rw [unset] at isSet
      cases isSet
    · exact ⟨owner, (Lending.itemOf_giveBack_other own).trans has, isOf⟩
  · intro session nobody
    by_cases own : session = client
    · rw [own]
      exact closed
    · apply holds.idle session
      intro owner has
      by_cases self : owner = pid
      · rw [self, borrowed] at has
        exact own (Option.some.inj has).symm
      · exact nobody owner ((Lending.itemOf_giveBack_other self).trans has)
  · intro other different
    exact ⟨Lending.itemOf_giveBack_other different, fun _ _ closed => closed,
      fun _ _ unset => unset⟩

/-- A client that is lent has no transaction. -/
theorem TenantInvariant.lend_step (holds : TenantInvariant calls state)
    {clients : Lending Pid Session} (lent : state.clients.lend pid client = some clients) :
    TenantInvariant calls { state with clients } ∧
      (∀ other, other ≠ pid → TenantFrame other state { state with clients }) ∧
      clients.itemOf pid = some client ∧ state.store.transaction client = none := by
  obtain ⟨before, borrowed, unlent, others⟩ := Lending.lend_spec lent
  refine ⟨⟨?_, ?_, holds.ended⟩, ?_, borrowed, holds.idle client unlent⟩
  · intro session
    have sound := holds.sound session
    refine ⟨sound.unscoped, ?_, sound.closed, sound.pending⟩
    intro tenantId isSet
    obtain ⟨owner, has, isOf⟩ := sound.ofCall tenantId isSet
    have different : owner ≠ pid := by
      intro same
      rw [same, before] at has
      cases has
    exact ⟨owner, (others owner different).trans has, isOf⟩
  · intro session nobody
    apply holds.idle session
    intro owner has
    by_cases self : owner = pid
    · rw [self, before] at has
      cases has
    · exact nobody owner ((others owner self).trans has)
  · intro other different
    exact ⟨others other different, fun _ _ closed => closed, fun _ _ unset => unset⟩

/-! ## Runs -/

/-- A call has come to its next stage. -/
structure SqlAdvance (timeout : String) (calls : Pid → DatabaseCall Answer) (pid : Pid)
    (before after : TenantState Pid Session) (program : SqlProgram Session Answer Answer) :
    Prop where
  invariant : TenantInvariant calls after
  standing : AtSqlStage timeout calls pid after program
  others : ∀ other, other ≠ pid → TenantFrame other before after
  changes : ∀ tenantId, rowsOf tenantId after.store.table ≠ rowsOf tenantId before.store.table →
    (calls pid).IsOf tenantId

theorem SqlStep.advance (step : SqlStep calls pid state after)
    (stage : SqlStage Session Answer) (facts : stage.Holds (calls pid) pid after) :
    SqlAdvance timeout calls pid state after (stage.program timeout (calls pid)) :=
  ⟨step.invariant, ⟨stage, rfl, facts⟩, step.others, step.changes⟩

/-- The statements of the function of a call, its `COMMIT` and its `ROLLBACK`. -/
theorem work_advance (holds : TenantInvariant calls state)
    (borrowed : state.clients.itemOf pid = some client) {rest : RowProgram Answer}
    {choice : SqlChoice Session} {statement : SqlStatement Session Answer}
    {next : Except SqlError statement.Reply → SqlProgram Session Answer Answer}
    {reply : Except SqlError statement.Reply}
    (current : (SqlStage.working client rest).program timeout (calls pid) =
      .perform statement next)
    (outcome : sqlOutcome false pid choice statement state = some (reply, after)) :
    SqlAdvance timeout calls pid state after (next reply) := by
  have undoes : ∀ error, undoSql client error = .perform statement next →
      SqlAdvance timeout calls pid state after (next reply) := by
    intro error isUndo
    cases isUndo
    obtain ⟨step, closed⟩ := holds.rollback_step borrowed outcome
    have still := (congrArg (fun clients => clients.itemOf pid) step.clients).trans borrowed
    cases reply with
    | ok _ => exact step.advance (.releasing client (.error error)) ⟨still, closed⟩
    | error failure => exact step.advance (.releasing client (.error failure)) ⟨still, closed⟩
  rcases work_cases client rest with ⟨row, later, rfl, isRow⟩ | ⟨value, isCommit⟩ | ⟨error, isUndo⟩
  · cases isRow.symm.trans current
    obtain ⟨step, -⟩ := holds.rows_step borrowed outcome
    have still := (congrArg (fun clients => clients.itemOf pid) step.clients).trans borrowed
    exact step.advance (.working client (later reply)) still
  · cases isCommit.symm.trans current
    obtain ⟨step, closed⟩ := holds.commit_step borrowed outcome
    have still := (congrArg (fun clients => clients.itemOf pid) step.clients).trans borrowed
    cases reply with
    | ok _ => exact step.advance (.releasing client (.ok value)) ⟨still, closed rfl⟩
    | error failure => exact step.advance (.undoing client failure) still
  · exact undoes error (isUndo.symm.trans current)

section Stages

variable {choice : SqlChoice Session} {statement : SqlStatement Session Answer}
  {next : Except SqlError statement.Reply → SqlProgram Session Answer Answer}
  {reply : Except SqlError statement.Reply}

/-- The call gets a client, waits for one, or throws. -/
theorem connect_advance (holds : TenantInvariant calls state)
    (noClient : state.clients.itemOf pid = none)
    (current : SqlStage.connecting.program timeout (calls pid) = .perform statement next)
    (outcome : sqlOutcome false pid choice statement state = some (reply, after)) :
    SqlAdvance timeout calls pid state after (next reply) := by
  cases current
  simp only [sqlOutcome] at outcome
  split at outcome
  · cases outcome
    exact holds.unchanged.advance (.ended (.error .query)) noClient
  · split at outcome
    · cases outcome
    · obtain ⟨clients, lent, moved⟩ := Option.map_eq_some_iff.mp outcome
      cases moved
      obtain ⟨invariant, others, borrowed, closed⟩ := holds.lend_step lent
      exact ⟨invariant, ⟨.opening choice.client, rfl, borrowed, closed⟩, others,
        fun _ differ => absurd rfl differ⟩

theorem begin_advance (holds : TenantInvariant calls state)
    (borrowed : state.clients.itemOf pid = some client)
    (closed : state.store.transaction client = none)
    (notQuery : ∀ row, calls pid ≠ .query row)
    (current : .branch (.begin client) (fun _ => limit timeout (calls pid) client)
      (undoSql client) = Program.perform statement next)
    (outcome : sqlOutcome false pid choice statement state = some (reply, after)) :
    SqlAdvance timeout calls pid state after (next reply) := by
  cases current
  obtain ⟨step, stillUnset⟩ :=
    holds.begin_step borrowed ((holds.sound client).closed closed) outcome
  have still := (congrArg (fun clients => clients.itemOf pid) step.clients).trans borrowed
  cases reply with
  | ok _ => exact step.advance (.limiting client) ⟨still, stillUnset, notQuery⟩
  | error error => exact step.advance (.undoing client error) still

/-- A query outside a transaction needs no `BEGIN`. -/
theorem open_advance (holds : TenantInvariant calls state)
    (borrowed : state.clients.itemOf pid = some client)
    (closed : state.store.transaction client = none)
    (current : (SqlStage.opening client).program timeout (calls pid) = .perform statement next)
    (outcome : sqlOutcome false pid choice statement state = some (reply, after)) :
    SqlAdvance timeout calls pid state after (next reply) := by
  cases call : calls pid with
  | query row =>
      rw [call] at current
      cases current
      obtain ⟨step, stillClosed⟩ := holds.rows_step borrowed outcome
      have still := (congrArg (fun clients => clients.itemOf pid) step.clients).trans borrowed
      cases reply with
      | ok answer =>
          exact step.advance (.releasing client (.ok answer)) ⟨still, stillClosed closed⟩
      | error error =>
          exact step.advance (.releasing client (.error error)) ⟨still, stillClosed closed⟩
  | transaction | tenantTransaction =>
      apply begin_advance holds borrowed closed
      · intro row isQuery
        rw [call] at isQuery
        cases isQuery
      · rw [call] at current ⊢
        exact current
      · exact outcome

/-- The tenant is set before the function of the call runs. -/
theorem enter_advance (holds : TenantInvariant calls state)
    (borrowed : state.clients.itemOf pid = some client)
    (unset : (state.settings client).transactional = none)
    (notQuery : ∀ row, calls pid ≠ .query row)
    (current : (SqlStage.entering client).program timeout (calls pid) = .perform statement next)
    (outcome : sqlOutcome false pid choice statement state = some (reply, after)) :
    SqlAdvance timeout calls pid state after (next reply) := by
  cases call : calls pid with
  | query row => exact absurd call (notQuery row)
  | transaction fn =>
      rw [call] at current
      exact @work_advance _ _ _ _ _ _ _ _ _ _ timeout holds borrowed fn _ _ _ _ current outcome
  | tenantTransaction ctx fn =>
      rw [call] at current
      cases current
      have step := holds.setTenant_step borrowed unset ⟨ctx, fn, call, rfl⟩ outcome
      have still := (congrArg (fun clients => clients.itemOf pid) step.clients).trans borrowed
      cases reply with
      | ok _ => exact step.advance (.working client fn) still
      | error error => exact step.advance (.undoing client error) still

/-- A statement leads a call to its next stage. -/
theorem AtSqlStage.advance (holds : TenantInvariant calls state)
    (standing : AtSqlStage timeout calls pid state (.perform statement next))
    (outcome : sqlOutcome false pid choice statement state = some (reply, after)) :
    SqlAdvance timeout calls pid state after (next reply) := by
  obtain ⟨stage, same, facts⟩ := standing
  cases stage with
  | ended result => cases result <;> cases same
  | connecting => exact connect_advance holds facts same outcome
  | opening client => exact open_advance holds facts.1 facts.2 same outcome
  | limiting client =>
      cases same
      obtain ⟨step, stillUnset⟩ := holds.limit_step facts.1 facts.2.1 outcome
      have still := (congrArg (fun clients => clients.itemOf pid) step.clients).trans facts.1
      cases reply with
      | ok _ => exact step.advance (.entering client) ⟨still, stillUnset, facts.2.2⟩
      | error error => exact step.advance (.undoing client error) still
  | entering client => exact enter_advance holds facts.1 facts.2.1 facts.2.2 same outcome
  | working client rest => exact work_advance holds facts same outcome
  | undoing client error =>
      cases same
      have borrowed : state.clients.itemOf pid = some client := facts
      obtain ⟨step, closed⟩ := holds.rollback_step borrowed outcome
      have still := (congrArg (fun clients => clients.itemOf pid) step.clients).trans borrowed
      cases reply with
      | ok _ => exact step.advance (.releasing client (.error error)) ⟨still, closed⟩
      | error failure => exact step.advance (.releasing client (.error failure)) ⟨still, closed⟩
  | releasing client result =>
      cases same
      cases outcome
      obtain ⟨invariant, others⟩ := holds.release_step facts.1 facts.2
      exact ⟨invariant, ⟨.ended result, rfl, Lending.itemOf_giveBack_self⟩, others,
        fun _ differ => absurd rfl differ⟩

end Stages

/-- A call issues the statements of its function on its own client. -/
theorem AtSqlStage.rows_client {row : RowStatement Answer}
    {next : Except SqlError Answer → SqlProgram Session Answer Answer}
    (standing : AtSqlStage timeout calls pid state (.perform (.rows client row) next)) :
    state.clients.itemOf pid = some client := by
  obtain ⟨stage, same, facts⟩ := standing
  have working : ∀ own rest, work own rest = .perform (.rows client row) next →
      own = client := by
    intro own rest isRow
    rcases work_cases own rest with ⟨_, _, -, rows⟩ | ⟨value, isCommit⟩ | ⟨error, isUndo⟩
    · cases rows.symm.trans isRow
      rfl
    · cases isCommit.symm.trans isRow
    · cases isUndo.symm.trans isRow
  cases stage with
  | connecting => cases same
  | limiting own => cases same
  | undoing own error => cases same
  | releasing own result => cases same
  | ended result => cases result <;> cases same
  | opening own =>
      cases call : calls pid with
      | query statement =>
          rw [call] at same
          cases same
          exact facts.1
      | transaction fn =>
          rw [call] at same
          cases same
      | tenantTransaction ctx fn =>
          rw [call] at same
          cases same
  | entering own =>
      cases call : calls pid with
      | query statement => exact absurd call (facts.2.2 statement)
      | transaction fn =>
          rw [call] at same
          rw [← working own fn same]
          exact facts.1
      | tenantTransaction ctx fn =>
          rw [call] at same
          cases same
  | working own rest =>
      rw [← working own rest same]
      exact facts

/-- A lost connection takes nothing from a call but its transaction. -/
theorem TenantInvariant.disconnect (holds : TenantInvariant calls state) (pid : Pid) :
    TenantInvariant calls (state.disconnect pid) ∧
      ∀ other, TenantFrame other state (state.disconnect pid) := by
  unfold TenantState.disconnect
  cases has : state.clients.itemOf pid with
  | none => exact ⟨holds, fun _ => ⟨rfl, fun _ _ closed => closed, fun _ _ unset => unset⟩⟩
  | some client =>
      have step := holds.endSession has
      refine ⟨step.invariant, ?_⟩
      intro other
      by_cases own : other = pid
      · subst own
        refine ⟨rfl, ?_, ?_⟩
        · intro session borrowed _
          cases has.symm.trans borrowed
          exact state.store.withTransaction_self client none
        · intro session borrowed _
          cases has.symm.trans borrowed
          simp [TenantState.endSession, TenantState.settled, TenantState.withSetting]
      · exact step.others other own

variable {rows : List ResourceRow}
  {world : SqlWorld Pid Session Answer}

theorem sqlStart_consistent (timeout : String) (rows : List ResourceRow)
    (calls : Pid → DatabaseCall Answer) :
    (sqlStart timeout rows calls : SqlWorld Pid Session Answer).Consistent
      (TenantInvariant calls) (AtSqlStage timeout calls) where
  shared :=
    { sound := fun _ =>
        { unscoped := Or.inl rfl
          ofCall := fun _ isSet => by cases isSet
          closed := fun _ => rfl
          pending := fun _ isOpen => by cases isOpen }
      idle := fun _ _ => rfl
      ended := fun _ member => absurd member List.not_mem_nil }
  points := by
    intro pid program running
    cases running
    exact ⟨.connecting, (databaseCall_eq timeout (calls pid)).symm, rfl⟩

/-- An event keeps the invariant, and the rows that it changes are those of the
tenant of the call that moves. -/
theorem consistentSql_step
    (consistent : world.Consistent (TenantInvariant calls) (AtSqlStage timeout calls))
    (event : Event Pid (SqlChoice Session)) :
    (world.step (sqlServer false) event).Consistent (TenantInvariant calls)
        (AtSqlStage timeout calls) ∧
      ∀ tenantId, rowsOf tenantId (world.step (sqlServer false) event).shared.store.table ≠
          rowsOf tenantId world.shared.store.table →
        ∃ pid choice, event = .statement pid choice ∧ (calls pid).IsOf tenantId := by
  rcases World.step_cases (sqlServer false) world event with
    unchanged | ⟨pid, choice, statement, next, reply, shared, rfl, current, outcome, moved⟩ |
      ⟨pid, programs, moved, remaining⟩
  · rw [unchanged]
    exact ⟨consistent, fun _ differ => absurd rfl differ⟩
  · have advanced := AtSqlStage.advance consistent.shared (consistent.points pid _ current)
      outcome
    rw [moved]
    refine ⟨⟨advanced.invariant, ?_⟩, ?_⟩
    · intro other program running
      rcases update_cases running with ⟨rfl, isNext⟩ | ⟨different, before⟩
      · cases isNext
        exact advanced.standing
      · exact (consistent.points other program before).frame (advanced.others other different)
    · intro tenantId differ
      exact ⟨pid, choice, rfl, advanced.changes tenantId differ⟩
  · obtain ⟨kept, frames⟩ := consistent.shared.disconnect pid
    rw [moved]
    refine ⟨⟨kept, ?_⟩, ?_⟩
    · intro other program running
      exact (consistent.points other program (remaining other program running)).frame
        (frames other)
    · intro tenantId differ
      refine absurd ?_ differ
      simp only [sqlServer, TenantState.disconnect]
      split <;> rfl

/-- A statement of a call sees no row but those of the tenant of the call. -/
def SeesOwnRows (calls : Pid → DatabaseCall Answer) (world : SqlWorld Pid Session Answer) : Prop :=
  ∀ pid client statement next,
    world.programs pid = some (.perform (.rows client statement) next) →
      ∀ row ∈ world.shared.rowsSeen false client, (calls pid).IsOf row.tenantId.text

/-- An event changes no committed row but those of the tenant of the call that
moves. -/
def ChangesOwnRows (calls : Pid → DatabaseCall Answer) (world : SqlWorld Pid Session Answer) :
    Prop :=
  ∀ event tenantId, rowsOf tenantId (world.step (sqlServer false) event).shared.store.table ≠
      rowsOf tenantId world.shared.store.table →
    ∃ pid choice, event = .statement pid choice ∧ (calls pid).IsOf tenantId

/-- A client that nobody has carries neither a transaction nor a tenant. -/
def PoolClean (state : TenantState Pid Session) : Prop :=
  ∀ client, (∀ pid, state.clients.itemOf pid ≠ some client) →
    state.store.transaction client = none ∧
      ∀ row, passesPolicy false (state.settings client) row = false

/-- Whatever the schedule, calls of one tenant neither see nor change rows of
another, calls without a tenant see and change none, and no client goes back to
the pool with a transaction or a tenant. -/
theorem tenantTransactions_isolated (timeout : String) (rows : List ResourceRow)
    (calls : Pid → DatabaseCall Answer) (events : List (Event Pid (SqlChoice Session))) :
    let world := run (World.step (sqlServer false)) (sqlStart timeout rows calls) events
    SeesOwnRows calls world ∧ ChangesOwnRows calls world ∧ PoolClean world.shared := by
  intro world
  have consistent : world.Consistent (TenantInvariant calls) (AtSqlStage timeout calls) :=
    @run_invariant_of_step _ _ (World.step (sqlServer false))
      (fun world => world.Consistent (TenantInvariant calls) (AtSqlStage timeout calls))
      (fun _ event holds => (consistentSql_step holds event).1) _ events
      (sqlStart_consistent timeout rows calls)
  refine ⟨?_, ?_, ?_⟩
  · intro pid client statement next running row member
    have borrowed := (consistent.points pid _ running).rows_client
    have sound := consistent.shared.sound client
    have passes := (List.mem_filter.mp member).2
    obtain ⟨owner, has, isOf⟩ :=
      sound.ofCall _ (sound.unscoped.transactional_of_passes passes)
    exact Lending.borrower_unique borrowed has ▸ isOf
  · exact fun event => (consistentSql_step consistent event).2
  · intro client nobody
    have closed := consistent.shared.idle client nobody
    refine ⟨closed, ?_⟩
    intro row
    have sound := consistent.shared.sound client
    by_contra passes
    have isSet := sound.unscoped.transactional_of_passes (by simpa using passes)
    rw [sound.closed closed] at isSet
    cases isSet

end Invariant

end PlatformArchitecture.Postgres
