import Mathlib.Data.List.Nodup
import PlatformArchitecture.Security.SessionRegistry

/-!
# Chains of refresh tokens

What a session answers to the refresh tokens presented to it, from its creation
on.  The accepted tokens are a chain that starts with the token of the creation,
and the first one that does not continue it ends the session.
-/

namespace PlatformArchitecture.Security.SessionRegistry

open PlatformArchitecture.Foundations

/-- A refresh token presented to one session. -/
structure Rotation where
  presented : String
  newToken : String
  accepted : Bool

/-- The rotations of a session, in order. -/
def rotationsOf (sessionId : String) (events : List Event) : List Rotation :=
  events.filterMap fun event =>
    match event with
    | .revoked _ => none
    | .rotated rotated presented new result =>
        if rotated = sessionId then some ⟨presented, new, result.isOk⟩ else none

def acceptedOf (rotations : List Rotation) : List Rotation :=
  rotations.filter Rotation.accepted

/-- The new tokens that the calls bring to a session. -/
def newTokens (sessionId : String) (operations : List Operation) : List String :=
  operations.filterMap fun operation =>
    match operation with
    | .create _ _ _ _ => none
    | .revoke _ _ => none
    | .rotate rotated _ new _ => if rotated = sessionId then some new else none

/-- The operation creates the session. -/
def Operation.Creates (sessionId : String) : Operation → Prop
  | .create created _ _ _ => created = sessionId
  | .revoke _ _ => False
  | .rotate _ _ _ _ => False

instance decidableCreates (sessionId : String) :
    ∀ operation : Operation, Decidable (operation.Creates sessionId)
  | .create created _ _ _ => inferInstanceAs (Decidable (created = sessionId))
  | .revoke _ _ => inferInstanceAs (Decidable False)
  | .rotate _ _ _ _ => inferInstanceAs (Decidable False)

theorem rotationsOf_append (sessionId presented new : String) (events : List Event)
    (result : Except String Unit) :
    rotationsOf sessionId (events ++ [.rotated sessionId presented new result]) =
      rotationsOf sessionId events ++ [⟨presented, new, result.isOk⟩] := by
  unfold rotationsOf
  simp

theorem rotationsOf_append_other {sessionId rotated : String} (different : rotated ≠ sessionId)
    (presented new : String) (events : List Event) (result : Except String Unit) :
    rotationsOf sessionId (events ++ [.rotated rotated presented new result]) =
      rotationsOf sessionId events := by
  unfold rotationsOf
  simp [different]

theorem rotationsOf_revoked (sessionId revoked : String) (events : List Event)
    (stored : Option SessionState) :
    rotationsOf sessionId (events ++ (stored.map fun _ => Event.revoked revoked).toList) =
      rotationsOf sessionId events := by
  unfold rotationsOf
  cases stored with
  | none => simp
  | some session => simp

theorem acceptedOf_accepted (rotations : List Rotation) (presented new : String) :
    acceptedOf (rotations ++ [⟨presented, new, true⟩]) =
      acceptedOf rotations ++ [⟨presented, new, true⟩] := by
  unfold acceptedOf
  simp

theorem acceptedOf_refused (rotations : List Rotation) (presented new : String) :
    acceptedOf (rotations ++ [⟨presented, new, false⟩]) = acceptedOf rotations := by
  unfold acceptedOf
  simp

/-! ## What is said of a history -/

/-- Every accepted token is the new one of the acceptance before it, the first
is that of the creation. -/
def Chained : String → List Rotation → Prop
  | _, [] => True
  | current, rotation :: rest =>
      rotation.presented = current ∧ Chained rotation.newToken rest

/-- The tokens a session has had, the current one last. -/
def issued (initial : String) (accepted : List Rotation) : List String :=
  initial :: accepted.map Rotation.newToken

/-- The token has been the current one and is no longer, or never was. -/
def SupersededOrUnknown (initial : String) (accepted : List Rotation) (token : String) : Prop :=
  token ∈ (issued initial accepted).dropLast ∨ token ∉ issued initial accepted

structure RotatesAsChain (initial : String) (rotations : List Rotation) : Prop where
  acceptedOnce : ((acceptedOf rotations).map Rotation.presented).Nodup
  chained : Chained initial (acceptedOf rotations)
  misuseIsFinal : ∀ before rotation after, rotations = before ++ rotation :: after →
    SupersededOrUnknown initial (acceptedOf before) rotation.presented →
      ∀ later ∈ rotation :: after, later.accepted = false

/-! ## Chains -/

/-- The token that is current after some acceptances. -/
def lastToken : String → List Rotation → String
  | current, [] => current
  | _, rotation :: rest => lastToken rotation.newToken rest

theorem chained_append {first second : List Rotation} {initial : String} :
    Chained initial (first ++ second) ↔
      Chained initial first ∧ Chained (lastToken initial first) second := by
  induction first generalizing initial with
  | nil => exact ⟨fun chained => ⟨trivial, chained⟩, fun parts => parts.2⟩
  | cons rotation rest inductionHypothesis =>
      show _ ∧ Chained rotation.newToken (rest ++ second) ↔ _
      rw [inductionHypothesis, ← and_assoc]
      rfl

theorem lastToken_append (initial : String) (first : List Rotation) (rotation : Rotation) :
    lastToken initial (first ++ [rotation]) = rotation.newToken := by
  induction first generalizing initial with
  | nil => rfl
  | cons other rest inductionHypothesis => exact inductionHypothesis other.newToken

theorem issued_eq (initial : String) (accepted : List Rotation) :
    issued initial accepted =
      (issued initial accepted).dropLast ++ [lastToken initial accepted] := by
  induction accepted generalizing initial with
  | nil => rfl
  | cons rotation rest inductionHypothesis =>
      have further := inductionHypothesis rotation.newToken
      show initial :: issued rotation.newToken rest =
        initial :: (issued rotation.newToken rest).dropLast ++ [lastToken _ rest]
      rw [List.cons_append, ← further]

/-- The accepted tokens are those that have been current and are no longer. -/
theorem Chained.presented_eq {initial : String} {accepted : List Rotation}
    (chained : Chained initial accepted) :
    accepted.map Rotation.presented = (issued initial accepted).dropLast := by
  induction accepted generalizing initial with
  | nil => rfl
  | cons rotation rest inductionHypothesis =>
      have further := inductionHypothesis chained.2
      show rotation.presented :: rest.map Rotation.presented =
        initial :: (issued rotation.newToken rest).dropLast
      rw [chained.1, further]

theorem not_supersededOrUnknown_lastToken {initial : String} {accepted : List Rotation}
    (fresh : (issued initial accepted).Nodup) :
    ¬ SupersededOrUnknown initial accepted (lastToken initial accepted) := by
  have parts := issued_eq initial accepted
  rw [parts] at fresh
  rintro (superseded | unknown)
  · exact (List.nodup_append.mp fresh).2.2 _ superseded _ (List.mem_singleton_self _) rfl
  · rw [parts] at unknown
    exact unknown (List.mem_append_right _ (List.mem_singleton_self _))

/-! ## The chain over a run -/

/-- The stored hash is that of the current token, and a session that has refused
a token is revoked. -/
structure TracksChain (hash : String → String) (sessionId initial : String)
    (history : History) : Prop where
  current : ∃ session, history.sessions.find sessionId = some session ∧
    session.currentRefreshHash =
      hash (lastToken initial (acceptedOf (rotationsOf sessionId history.events)))
  chained : Chained initial (acceptedOf (rotationsOf sessionId history.events))
  closed : ∀ rotation ∈ rotationsOf sessionId history.events, rotation.accepted = false →
    isRevoked sessionId history.sessions = true
  refusalsLast : (rotationsOf sessionId history.events).Pairwise fun earlier later =>
    later.accepted = true → earlier.accepted = true

namespace TracksChain

variable {hash : String → String} {sessionId initial : String} {history : History}

theorem created (sessions : Sessions) (refreshFamily : String) (deviceId : Option String) :
    TracksChain hash sessionId initial
      ⟨create hash sessionId refreshFamily initial deviceId sessions, []⟩ where
  current := ⟨_, (find_store _ _ _).trans (if_pos rfl), rfl⟩
  chained := trivial
  closed := nofun
  refusalsLast := List.Pairwise.nil

/-- What happens to other sessions is of no account. -/
theorem frame (tracks : TracksChain hash sessionId initial history) {later : History}
    (sameSession : later.sessions.find sessionId = history.sessions.find sessionId)
    (sameRotations : rotationsOf sessionId later.events =
      rotationsOf sessionId history.events) :
    TracksChain hash sessionId initial later := by
  have sameRevoked : isRevoked sessionId later.sessions =
      isRevoked sessionId history.sessions := by
    unfold isRevoked
    rw [sameSession]
  constructor
  case current =>
    rw [sameSession, sameRotations]
    exact tracks.current
  case chained =>
    rw [sameRotations]
    exact tracks.chained
  case closed =>
    rw [sameRotations, sameRevoked]
    exact tracks.closed
  case refusalsLast =>
    rw [sameRotations]
    exact tracks.refusalsLast

/-- The session is revoked, and answers what it answered. -/
theorem revoke (tracks : TracksChain hash sessionId initial history) {session : SessionState}
    (found : history.sessions.find sessionId = some session) (now : Moment)
    {events : List Event}
    (sameRotations : rotationsOf sessionId events = rotationsOf sessionId history.events) :
    TracksChain hash sessionId initial
      ⟨store history.sessions { session with revokedAt := some now.1 }, events⟩ := by
  have isSession := sessionId_of_find found
  obtain ⟨stored, isStored, isHash⟩ := tracks.current
  rw [found] at isStored
  cases isStored
  constructor
  case current =>
    rw [sameRotations]
    exact ⟨_, (find_store _ _ _).trans (if_pos isSession.symm), isHash⟩
  case chained =>
    rw [sameRotations]
    exact tracks.chained
  case closed =>
    intro _rotation _member _refused
    exact (isRevoked_revokedAt found now sessionId).mpr (Or.inr rfl)
  case refusalsLast =>
    rw [sameRotations]
    exact tracks.refusalsLast

/-- A revoked session refuses a token. -/
theorem refuse (tracks : TracksChain hash sessionId initial history)
    (revoked : isRevoked sessionId history.sessions = true) {presented new message : String} :
    TracksChain hash sessionId initial
      ⟨history.sessions,
        history.events ++ [.rotated sessionId presented new (.error message)]⟩ := by
  have rotations := rotationsOf_append sessionId presented new history.events (.error message)
  have accepted := (congrArg acceptedOf rotations).trans (acceptedOf_refused _ presented new)
  constructor
  case current =>
    rw [accepted]
    exact tracks.current
  case chained =>
    rw [accepted]
    exact tracks.chained
  case closed =>
    intro _rotation _member _refused
    exact revoked
  case refusalsLast =>
    rw [rotations, List.pairwise_append]
    refine ⟨tracks.refusalsLast, List.pairwise_singleton _ _, ?_⟩
    intro earlier _member later isLast isAccepted
    rw [List.mem_singleton.mp isLast] at isAccepted
    cases isAccepted

/-- An open session accepts the current token. -/
theorem accept (tracks : TracksChain hash sessionId initial history)
    (injective : Function.Injective hash) {session : SessionState}
    (found : history.sessions.find sessionId = some session)
    (isOpen : session.revoked = false) {presented new : String}
    (isCurrent : session.currentRefreshHash = hash presented) :
    TracksChain hash sessionId initial
      ⟨store history.sessions { session with currentRefreshHash := hash new },
        history.events ++ [.rotated sessionId presented new (.ok ())]⟩ := by
  have isSession := sessionId_of_find found
  obtain ⟨stored, isStored, isHash⟩ := tracks.current
  rw [found] at isStored
  cases isStored
  have isLast : presented =
      lastToken initial (acceptedOf (rotationsOf sessionId history.events)) :=
    injective (isCurrent.symm.trans isHash)
  have allAccepted : ∀ rotation ∈ rotationsOf sessionId history.events,
      rotation.accepted = true := by
    intro rotation member
    by_contra refused
    have revoked := tracks.closed rotation member (Bool.not_eq_true _ ▸ refused)
    rw [isRevoked_of_find found, isOpen] at revoked
    cases revoked
  have rotations := rotationsOf_append sessionId presented new history.events (.ok ())
  have accepted := (congrArg acceptedOf rotations).trans (acceptedOf_accepted _ presented new)
  constructor
  case current =>
    rw [accepted, lastToken_append]
    exact ⟨_, (find_store _ _ _).trans (if_pos isSession.symm), rfl⟩
  case chained =>
    rw [accepted, chained_append]
    exact ⟨tracks.chained, isLast, trivial⟩
  case closed =>
    intro rotation member refused
    rw [rotations] at member
    rcases List.mem_append.mp member with earlier | isNew
    · rw [allAccepted rotation earlier] at refused
      cases refused
    · rw [List.mem_singleton.mp isNew] at refused
      cases refused
  case refusalsLast =>
    rw [rotations, List.pairwise_append]
    refine ⟨tracks.refusalsLast, List.pairwise_singleton _ _, ?_⟩
    intro earlier member _later _isLast _isAccepted
    exact allAccepted earlier member

theorem step (tracks : TracksChain hash sessionId initial history)
    (injective : Function.Injective hash) {operation : Operation}
    (spares : ¬ operation.Creates sessionId) :
    TracksChain hash sessionId initial (History.step hash history operation) := by
  cases operation with
  | create created refreshFamily refreshToken deviceId =>
      exact tracks.frame ((find_store _ _ _).trans (if_neg fun same => spares same.symm)) rfl
  | revoke revoked now =>
      have sameRotations := rotationsOf_revoked sessionId revoked history.events
        (history.sessions.find revoked)
      cases found : history.sessions.find revoked with
      | none =>
          refine tracks.frame ?_ sameRotations
          show (SessionRegistry.revoke revoked now history.sessions).find sessionId = _
          unfold SessionRegistry.revoke
          rw [found]
      | some session =>
          have isStored : SessionRegistry.revoke revoked now history.sessions =
              store history.sessions { session with revokedAt := some now.1 } := by
            unfold SessionRegistry.revoke
            rw [found]
          unfold History.step
          dsimp only
          rw [isStored]
          by_cases same : sessionId = revoked
          · exact tracks.revoke (same ▸ found) now sameRotations
          · have isSession := sessionId_of_find found
            refine tracks.frame ((find_store _ _ _).trans (if_neg ?_)) sameRotations
            intro sameId
            exact same (sameId.trans isSession)
  | rotate rotated presented new now =>
      have rotates := rotate_rotates hash history.sessions rotated presented new now
      unfold History.step
      dsimp only
      generalize rotate hash rotated presented new now history.sessions = answer at rotates ⊢
      by_cases same : rotated = sessionId
      · subst same
        cases rotates with
        | refused closed =>
            apply tracks.refuse
            obtain ⟨session, found, _⟩ := tracks.current
            rw [isRevoked_of_find found]
            exact closed session found
        | reused session found isOpen differs =>
            have revoked := tracks.revoke found now rfl
            exact revoked.refuse ((isRevoked_revokedAt found now rotated).mpr (Or.inr rfl))
        | rotated session found isOpen isCurrent =>
            exact tracks.accept injective found isOpen isCurrent
      · have sameRotations := rotationsOf_append_other same presented new history.events
        cases rotates with
        | refused closed => exact tracks.frame rfl (sameRotations _)
        | reused session found _ _ =>
            have isSession := sessionId_of_find found
            refine tracks.frame ((find_store _ _ _).trans (if_neg ?_)) (sameRotations _)
            intro sameId
            exact same (sameId.trans isSession).symm
        | rotated session found _ _ =>
            have isSession := sessionId_of_find found
            refine tracks.frame ((find_store _ _ _).trans (if_neg ?_)) (sameRotations _)
            intro sameId
            exact same (sameId.trans isSession).symm

/-- With fresh tokens, the rotations of a session that is tracked are a chain. -/
theorem rotatesAsChain (tracks : TracksChain hash sessionId initial history)
    (fresh : (initial :: (rotationsOf sessionId history.events).map Rotation.newToken).Nodup) :
    RotatesAsChain initial (rotationsOf sessionId history.events) := by
  have chained := tracks.chained
  have refusalsLast := tracks.refusalsLast
  generalize rotationsOf sessionId history.events = rotations at fresh chained refusalsLast ⊢
  have freshAccepted : ∀ before : List Rotation, before.Sublist rotations →
      (issued initial (acceptedOf before)).Nodup := by
    intro before isPart
    exact (((List.filter_sublist.trans isPart).map Rotation.newToken).cons_cons initial).nodup fresh
  constructor
  case acceptedOnce =>
    rw [chained.presented_eq]
    exact (List.dropLast_sublist _).nodup (freshAccepted rotations (List.Sublist.refl _))
  case chained => exact chained
  case misuseIsFinal =>
    rintro before rotation after rfl misused later member
    have refused : rotation.accepted = false := by
      by_contra accepted
      have isAccepted : rotation.accepted = true := Bool.not_eq_false _ ▸ accepted
      have parts : acceptedOf (before ++ rotation :: after) =
          acceptedOf before ++ rotation :: acceptedOf after := by
        unfold acceptedOf
        rw [List.filter_append, List.filter_cons_of_pos isAccepted]
      rw [parts, chained_append] at chained
      rw [chained.2.1] at misused
      exact not_supersededOrUnknown_lastToken
        (freshAccepted before (List.sublist_append_left _ _)) misused
    rcases List.mem_cons.mp member with rfl | isAfter
    · exact refused
    · by_contra accepted
      have ordered := (List.pairwise_cons.mp (List.pairwise_append.mp refusalsLast).2.1).1
      have earlier := ordered later isAfter (Bool.not_eq_false _ ▸ accepted)
      rw [refused] at earlier
      cases earlier

end TracksChain

theorem newTokens_cons (sessionId : String) (operation : Operation)
    (operations : List Operation) :
    newTokens sessionId (operation :: operations) =
      newTokens sessionId [operation] ++ newTokens sessionId operations := by
  unfold newTokens
  rw [← List.filterMap_append]
  rfl

/-- The new tokens of the rotations are those the calls bring. -/
theorem newTokens_step (hash : String → String) (sessionId : String) (history : History)
    (operation : Operation) :
    (rotationsOf sessionId (History.step hash history operation).events).map
        Rotation.newToken =
      (rotationsOf sessionId history.events).map Rotation.newToken ++
        newTokens sessionId [operation] := by
  cases operation with
  | create => exact (List.append_nil _).symm
  | revoke revoked now =>
      unfold History.step
      dsimp only
      rw [rotationsOf_revoked]
      exact (List.append_nil _).symm
  | rotate rotated presented new now =>
      unfold History.step newTokens
      dsimp only
      by_cases same : rotated = sessionId
      · rw [same, rotationsOf_append, List.map_append]
        simp
      · rw [rotationsOf_append_other same]
        simp [same]

theorem newTokens_run (hash : String → String) (sessionId : String)
    (operations : List Operation) (history : History) :
    (rotationsOf sessionId (run (History.step hash) history operations).events).map
        Rotation.newToken =
      (rotationsOf sessionId history.events).map Rotation.newToken ++
        newTokens sessionId operations := by
  induction operations generalizing history with
  | nil => exact (List.append_nil _).symm
  | cons operation rest inductionHypothesis =>
      rw [run_cons, inductionHypothesis, newTokens_step, newTokens_cons sessionId operation rest,
        List.append_assoc]

/-- From its creation on, a session that is not created again accepts a chain of
refresh tokens, each at most once, and after the first token that does not
continue it none. -/
theorem rotatesAsChain_run {hash : String → String} (injective : Function.Injective hash)
    {sessionId initial : String} (refreshFamily : String) (deviceId : Option String)
    (sessions : Sessions) {operations : List Operation}
    (createdOnce : ∀ operation ∈ operations, ¬ operation.Creates sessionId)
    (fresh : (initial :: newTokens sessionId operations).Nodup) :
    RotatesAsChain initial (rotationsOf sessionId
      (run (History.step hash)
        ⟨create hash sessionId refreshFamily initial deviceId sessions, []⟩
        operations).events) := by
  have tracks : TracksChain hash sessionId initial (run (History.step hash)
      ⟨create hash sessionId refreshFamily initial deviceId sessions, []⟩ operations) :=
    run_invariant (fun _history _operation kept spares => kept.step injective spares)
      (TracksChain.created sessions refreshFamily deviceId) (everyStep_of_mem createdOnce)
  apply tracks.rotatesAsChain
  rw [newTokens_run]
  exact fresh

/-- Two rotations, and a second use of the first token. -/
def reuse : List Operation :=
  [.rotate "session" "first" "second" ⟨1, Nat.one_pos⟩,
    .rotate "session" "second" "third" ⟨2, Nat.two_pos⟩,
    .rotate "session" "first" "fourth" ⟨3, Nat.succ_pos 2⟩]

theorem rotatesAsChain_reuse :
    RotatesAsChain "first" (rotationsOf "session"
      (run (History.step History.digests)
        ⟨create History.digests "session" "family" "first" none KeyedTable.empty, []⟩
        reuse).events) := by
  have injective : Function.Injective History.digests := Equiv.injective _
  exact rotatesAsChain_run injective "family" none KeyedTable.empty (by decide) (by decide)

end PlatformArchitecture.Security.SessionRegistry
