import Mathlib.Logic.Equiv.Basic
import PlatformArchitecture.Foundations.KeyedTables
import PlatformArchitecture.Foundations.Run

/-!
# The session registry

Sessions are created, revoked and rotated in any order.  A session that has been
revoked, by a call of `revoke` or because a refresh token was used again, stays
revoked unless it is created once more: `create` puts a new session in the place
of whatever is stored under the id.
-/

namespace PlatformArchitecture.Security

open PlatformArchitecture.Foundations

/-- An entry of the map `sessions`; the times are those of `Date.now()`. -/
structure SessionState where
  sessionId : String
  revokedAt : Option Nat
  refreshFamily : String
  currentRefreshHash : String
  deviceId : Option String

/-- Whether `revokedAt` counts as true: a time of zero does not. -/
def SessionState.revoked (session : SessionState) : Bool :=
  session.revokedAt.any fun moment => decide (moment ≠ 0)

abbrev Sessions := KeyedTable SessionState.sessionId

namespace SessionRegistry

/-- The session takes the place of the one under its id. -/
def store (sessions : Sessions) (session : SessionState) : Sessions :=
  sessions.upsert (fun _stored given => given) session fun _stored _same => rfl

-- `createHash("sha256")` and its digest in hexadecimal
variable (hash : String → String)

def create (sessionId refreshFamily refreshToken : String) (deviceId : Option String)
    (sessions : Sessions) : Sessions :=
  store sessions ⟨sessionId, none, refreshFamily, hash refreshToken, deviceId⟩

def revoke (sessionId : String) (now : Nat) (sessions : Sessions) : Sessions :=
  match sessions.find sessionId with
  | none => sessions
  | some session => store sessions { session with revokedAt := some now }

def isRevoked (sessionId : String) (sessions : Sessions) : Bool :=
  (sessions.find sessionId).any SessionState.revoked

def rotate (sessionId presentedRefreshToken newRefreshToken : String) (now : Nat)
    (sessions : Sessions) : Except String Unit × Sessions :=
  match sessions.find sessionId with
  | none => (.error "SESSION_REVOKED", sessions)
  | some session =>
      if session.revoked = true then
        (.error "SESSION_REVOKED", sessions)
      else if session.currentRefreshHash ≠ hash presentedRefreshToken then
        (.error "REFRESH_TOKEN_REUSE_DETECTED",
          store sessions { session with revokedAt := some now })
      else
        (.ok (), store sessions { session with currentRefreshHash := hash newRefreshToken })

/-! ## Runs of the registry -/

/-- A reading of the clock, in milliseconds after the start of 1970. -/
abbrev Moment := { ms : Nat // 0 < ms }

inductive Operation where
  | create (sessionId refreshFamily refreshToken : String) (deviceId : Option String)
  | revoke (sessionId : String) (now : Moment)
  | rotate (sessionId presentedRefreshToken newRefreshToken : String) (now : Moment)

/-- A session was revoked, or a refresh token was presented. -/
inductive Event where
  | revoked (sessionId : String)
  | rotated (sessionId presentedRefreshToken newRefreshToken : String)
      (result : Except String Unit)

/-- The registry, and what has happened to it. -/
structure History where
  sessions : Sessions
  events : List Event

namespace History

def initial : History :=
  ⟨KeyedTable.empty, []⟩

/-- A call of `revoke` revokes a session that exists. -/
def step (history : History) : Operation → History
  | .create sessionId refreshFamily refreshToken deviceId =>
      { history with
        sessions := create hash sessionId refreshFamily refreshToken deviceId history.sessions }
  | .revoke sessionId now =>
      ⟨revoke sessionId now history.sessions,
        history.events ++
          ((history.sessions.find sessionId).map fun _ => .revoked sessionId).toList⟩
  | .rotate sessionId presented new now =>
      let rotated := rotate hash sessionId presented new now history.sessions
      ⟨rotated.2, history.events ++ [.rotated sessionId presented new rotated.1]⟩

/-- The session has been revoked, explicitly or by reuse detection. -/
def WasRevoked (sessionId : String) (history : History) : Prop :=
  .revoked sessionId ∈ history.events ∨
    ∃ presented new,
      .rotated sessionId presented new (.error "REFRESH_TOKEN_REUSE_DETECTED") ∈ history.events

/-- What has been revoked is revoked, and no rotation of it succeeds. -/
def RevocationsLast (history : History) : Prop :=
  ∀ sessionId, WasRevoked sessionId history →
    isRevoked sessionId history.sessions = true ∧
      ∀ presented new now,
        (rotate hash sessionId presented new now history.sessions).1 ≠ .ok ()

/-- The operation does not create a session that is revoked. -/
def SparesRevoked (history : History) : Operation → Prop
  | .create sessionId _ _ _ => isRevoked sessionId history.sessions = false
  | .revoke _ _ => True
  | .rotate _ _ _ _ => True

end History

/-! ## What one operation does -/

variable {hash : String → String} {sessions : Sessions}

theorem find_store (sessions : Sessions) (session : SessionState) (wanted : String) :
    (store sessions session).find wanted =
      if wanted = session.sessionId then some session else sessions.find wanted := by
  unfold store
  rw [KeyedTable.find_upsert]
  cases sessions.find session.sessionId with
  | none => rfl
  | some stored => rfl

theorem sessionId_of_find {sessionId : String} {session : SessionState}
    (found : sessions.find sessionId = some session) : session.sessionId = sessionId :=
  (sessions.find_eq_some_iff.mp found).2

theorem isRevoked_store (sessions : Sessions) (session : SessionState) (wanted : String) :
    isRevoked wanted (store sessions session) =
      if wanted = session.sessionId then session.revoked else isRevoked wanted sessions := by
  unfold isRevoked
  rw [find_store]
  split
  · rfl
  · rfl

theorem isRevoked_of_find {sessionId : String} {session : SessionState}
    (found : sessions.find sessionId = some session) :
    isRevoked sessionId sessions = session.revoked := by
  unfold isRevoked
  rw [found]
  rfl

/-- A clock reading counts as true, and no other session is touched. -/
theorem isRevoked_revokedAt {sessionId : String} {session : SessionState}
    (found : sessions.find sessionId = some session) (now : Moment) (wanted : String) :
    isRevoked wanted (store sessions { session with revokedAt := some now.1 }) = true ↔
      isRevoked wanted sessions = true ∨ wanted = sessionId := by
  have revoked : { session with revokedAt := some now.1 }.revoked = true :=
    decide_eq_true now.2.ne'
  rw [isRevoked_store, revoked, sessionId_of_find found]
  by_cases same : wanted = sessionId
  · simp [same]
  · simp [same]

/-- What a call of `rotate` can do. -/
inductive Rotates (hash : String → String) (sessions : Sessions)
    (sessionId presented new : String) (now : Nat) : Except String Unit × Sessions → Prop
  | refused (closed : ∀ session, sessions.find sessionId = some session →
        session.revoked = true) :
      Rotates hash sessions sessionId presented new now (.error "SESSION_REVOKED", sessions)
  | reused (session : SessionState) (found : sessions.find sessionId = some session)
      (isOpen : session.revoked = false)
      (differs : session.currentRefreshHash ≠ hash presented) :
      Rotates hash sessions sessionId presented new now
        (.error "REFRESH_TOKEN_REUSE_DETECTED",
          store sessions { session with revokedAt := some now })
  | rotated (session : SessionState) (found : sessions.find sessionId = some session)
      (isOpen : session.revoked = false)
      (isCurrent : session.currentRefreshHash = hash presented) :
      Rotates hash sessions sessionId presented new now
        (.ok (), store sessions { session with currentRefreshHash := hash new })

theorem rotate_rotates (hash : String → String) (sessions : Sessions)
    (sessionId presented new : String) (now : Nat) :
    Rotates hash sessions sessionId presented new now
      (rotate hash sessionId presented new now sessions) := by
  unfold rotate
  cases found : sessions.find sessionId with
  | none =>
      apply Rotates.refused
      intro session isFound
      rw [found] at isFound
      cases isFound
  | some session =>
      dsimp only
      by_cases revoked : session.revoked = true
      · rw [if_pos revoked]
        apply Rotates.refused
        intro other isFound
        rw [found] at isFound
        cases isFound
        exact revoked
      · rw [if_neg revoked]
        have isOpen : session.revoked = false := Bool.not_eq_true _ ▸ revoked
        by_cases isCurrent : session.currentRefreshHash = hash presented
        · rw [if_neg (not_not_intro isCurrent)]
          exact Rotates.rotated session found isOpen isCurrent
        · rw [if_pos isCurrent]
          exact Rotates.reused session found isOpen isCurrent

theorem rotate_of_isRevoked {sessionId : String}
    (revoked : isRevoked sessionId sessions = true) (presented new : String) (now : Nat) :
    (rotate hash sessionId presented new now sessions).1 ≠ .ok () := by
  have rotates := rotate_rotates hash sessions sessionId presented new now
  intro succeeds
  generalize rotate hash sessionId presented new now sessions = answer at rotates succeeds
  cases rotates with
  | refused _ => cases succeeds
  | reused => cases succeeds
  | rotated session found isOpen _ =>
      rw [isRevoked_of_find found, isOpen] at revoked
      cases revoked

/-! ## Revocations over a run -/

namespace History

variable {history : History}

/-- The sessions that are revoked are those that have been. -/
def RevokedAsRecorded (history : History) : Prop :=
  ∀ sessionId, isRevoked sessionId history.sessions = true ↔ WasRevoked sessionId history

theorem revokedAsRecorded_initial : RevokedAsRecorded initial := by
  intro sessionId
  constructor
  · intro revoked
    cases revoked
  · rintro (event | ⟨_, _, event⟩)
    · cases event
    · cases event

theorem wasRevoked_revoke {sessionId wanted : String} {stored : Option SessionState} :
    WasRevoked wanted ⟨sessions, history.events ++
        (stored.map fun _ => Event.revoked sessionId).toList⟩ ↔
      WasRevoked wanted history ∨ (wanted = sessionId ∧ stored.isSome = true) := by
  unfold WasRevoked
  cases stored with
  | none => simp
  | some session =>
      simp only [Option.map_some, Option.toList_some, List.mem_append, List.mem_singleton,
        Event.revoked.injEq, reduceCtorEq, or_false, Option.isSome_some, and_true]
      exact or_right_comm

theorem wasRevoked_rotate {sessionId presented new wanted : String}
    {result : Except String Unit} :
    WasRevoked wanted ⟨sessions, history.events ++
        [.rotated sessionId presented new result]⟩ ↔
      WasRevoked wanted history ∨
        (wanted = sessionId ∧ result = .error "REFRESH_TOKEN_REUSE_DETECTED") := by
  unfold WasRevoked
  simp only [List.mem_append, List.mem_singleton, reduceCtorEq, or_false, Event.rotated.injEq]
  constructor
  · rintro (revoked | ⟨token, other, event | ⟨rfl, _, _, isReuse⟩⟩)
    · exact Or.inl (Or.inl revoked)
    · exact Or.inl (Or.inr ⟨token, other, event⟩)
    · exact Or.inr ⟨rfl, isReuse.symm⟩
  · rintro ((revoked | ⟨token, other, event⟩) | ⟨rfl, isReuse⟩)
    · exact Or.inl revoked
    · exact Or.inr ⟨token, other, Or.inl event⟩
    · exact Or.inr ⟨presented, new, Or.inr ⟨rfl, rfl, rfl, isReuse.symm⟩⟩

theorem RevokedAsRecorded.step (recorded : RevokedAsRecorded history) {operation : Operation}
    (spares : SparesRevoked history operation) :
    RevokedAsRecorded (step hash history operation) := by
  intro wanted
  cases operation with
  | create sessionId refreshFamily refreshToken deviceId =>
      have notRevoked : isRevoked sessionId history.sessions = false := spares
      refine Iff.trans ?_ (recorded wanted)
      show isRevoked wanted (store history.sessions _) = true ↔ _
      rw [isRevoked_store]
      by_cases same : wanted = sessionId
      · rw [if_pos same, same, notRevoked]
        rfl
      · rw [if_neg same]
  | revoke sessionId now =>
      refine Iff.trans ?_ wasRevoked_revoke.symm
      rw [← recorded wanted]
      show isRevoked wanted (revoke sessionId now history.sessions) = true ↔ _
      unfold revoke
      cases found : history.sessions.find sessionId with
      | none => simp
      | some session =>
          exact (isRevoked_revokedAt found now wanted).trans (by simp)
  | rotate sessionId presented new now =>
      refine Iff.trans ?_ wasRevoked_rotate.symm
      rw [← recorded wanted]
      have rotates := rotate_rotates hash history.sessions sessionId presented new now
      show isRevoked wanted (rotate hash sessionId presented new now history.sessions).2 = true ↔ _
      generalize rotate hash sessionId presented new now history.sessions = answer at rotates ⊢
      cases rotates with
      | refused _ => simp
      | reused session found _ _ =>
          exact (isRevoked_revokedAt found now wanted).trans (by simp)
      | rotated session found isOpen _ =>
          rw [isRevoked_store, sessionId_of_find found]
          by_cases same : wanted = sessionId
          · rw [if_pos same, same, isRevoked_of_find found]
            simp [SessionState.revoked]
          · simp [same]

theorem RevokedAsRecorded.last (recorded : RevokedAsRecorded history) :
    RevocationsLast hash history := by
  intro sessionId wasRevoked
  have revoked := (recorded sessionId).mpr wasRevoked
  exact ⟨revoked, rotate_of_isRevoked revoked⟩

/-- A create on a revoked session brings it back. -/
theorem RevokedAsRecorded.spares (recorded : RevokedAsRecorded history) {operation : Operation}
    (lasts : RevocationsLast hash (History.step hash history operation)) :
    SparesRevoked history operation := by
  cases operation with
  | revoke sessionId now => trivial
  | rotate sessionId presented new now => trivial
  | create sessionId refreshFamily refreshToken deviceId =>
      by_contra spared
      have revoked : isRevoked sessionId history.sessions = true :=
        Bool.not_eq_false _ ▸ spared
      have stillRevoked := (lasts sessionId ((recorded sessionId).mp revoked)).1
      have created : isRevoked sessionId (History.step hash history
          (.create sessionId refreshFamily refreshToken deviceId)).sessions = false := by
        show isRevoked sessionId (store history.sessions _) = false
        rw [isRevoked_store, if_pos rfl]
        rfl
      rw [created] at stillRevoked
      cases stillRevoked

/-- Whatever has been revoked stays revoked exactly as long as no session is
created under the id of one that is revoked. -/
theorem revocationsLast_iff (hash : String → String) (operations : List Operation) :
    (∀ prior, prior <+: operations →
        RevocationsLast hash (run (History.step hash) initial prior)) ↔
      EveryStep (History.step hash) SparesRevoked initial operations :=
  @everyState_iff_everyStep _ _ (History.step hash) SparesRevoked RevokedAsRecorded
    (RevocationsLast hash)
    (fun _history _operation recorded spares => recorded.step spares)
    (fun _history recorded => recorded.last)
    (fun _history _operation recorded lasts => recorded.spares lasts)
    _ operations revokedAsRecorded_initial

/-- An injective hash that gives the SHA-256 digests of three tokens. -/
def digests : String → String :=
  ((Equiv.swap "first" "a7937b64b8caa58f03721bb6bacf5c78cb235febe0e70b1b84cd99541461a08e").trans
    (Equiv.swap "second"
      "16367aacb67a4a017c8da8ab95682ccb390863780f7114dda0a0e0c55644c7c4")).trans
    (Equiv.swap "third" "b1e99324505bd32da0e1f85dcf5e19a09db0481e8a15f62c41eb320304a8e927")

/-- A session is created, revoked and created again. -/
def recreation : List Operation :=
  [.create "session" "family" "first" none, .revoke "session" ⟨1, Nat.one_pos⟩,
    .create "session" "family" "second" none]

theorem not_revocationsLast_recreation :
    ¬ RevocationsLast digests (run (History.step digests) initial recreation) := by
  intro lasts
  have revoked := (lasts "session" (Or.inl List.mem_cons_self)).1
  cases revoked

end History

end SessionRegistry

end PlatformArchitecture.Security
