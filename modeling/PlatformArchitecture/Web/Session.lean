import PlatformArchitecture.Foundations.Checks
import PlatformArchitecture.Foundations.Json
import PlatformArchitecture.Foundations.TextEncodings

/-!
# Web session cookies

A session travels in a cookie as base64url of its JSON text, followed by a dot
and an HMAC of that payload when a secret is configured.  The last dot divides
the two, which neither part contains, so what was encoded is read back; and a
reader with a secret accepts nothing without the signature of its payload.
-/

namespace PlatformArchitecture.Web

open PlatformArchitecture.Foundations

structure WebSession where
  userId : String
  tenantId : String
  workspaceId : Option String := none
  permissions : List String
  features : Option (List (String × Bool)) := none

/-- The session as the object it is at run time. -/
def WebSession.toJson (session : WebSession) : Json :=
  .obj ([("userId", .str session.userId), ("tenantId", .str session.tenantId)] ++
    (session.workspaceId.map fun workspaceId => ("workspaceId", Json.str workspaceId)).toList ++
    [("permissions", .arr (session.permissions.map .str))] ++
    (session.features.map fun features =>
      ("features", Json.obj (features.map fun feature => (feature.1, .bool feature.2)))).toList)

/-- What the functions read of `process.env`. -/
structure Environment where
  nodeEnv : Option String
  webSessionHmacSecret : Option String

def Environment.isProduction (env : Environment) : Prop :=
  env.nodeEnv = some "production"

instance (env : Environment) : Decidable env.isProduction :=
  inferInstanceAs (Decidable (env.nodeEnv = some "production"))

/-- Whether a secret counts as configured: an empty one does not. -/
def isConfigured (secret : Option String) : Prop :=
  ∃ key ∈ secret, key ≠ ""

instance (secret : Option String) : Decidable (isConfigured secret) :=
  inferInstanceAs (Decidable (∃ key ∈ secret, key ≠ ""))

def sessionSecret (env : Environment) : Except String (Option String) := do
  let secret := env.webSessionHmacSecret
  throwIf (env.isProduction ∧ (¬ isConfigured secret ∨ secret.any (utf16Length · < 32)))
    "WEB_SESSION_HMAC_SECRET must be at least 32 characters in production"
  return secret

def isString : Json → Bool
  | .str _ => true
  | _ => false

def isNonEmptyString : Json → Bool
  | .str value => value.length > 0
  | _ => false

def isBoolean : Json → Bool
  | .bool _ => true
  | _ => false

def validFeatureMap : Option Json → Bool
  | none => true
  | some (.obj features) => features.all fun enabled => isBoolean enabled.2
  | some (.arr features) => features.all isBoolean
  | some _ => false

def arePermissions : Json → Bool
  | .arr permissions => permissions.all isString
  | _ => false

def validSession : Json → Bool
  | .obj session =>
      (session.lookup "userId").any isNonEmptyString &&
        (session.lookup "tenantId").any isNonEmptyString &&
        (session.lookup "workspaceId").all isString &&
        (session.lookup "permissions").any arePermissions &&
        validFeatureMap (session.lookup "features")
  | _ => false

/-- `JSON.stringify` and `JSON.parse`, which throws on an empty text. -/
structure JsonTexts where
  stringify : Json → String
  parse : String → Option Json
  parse_empty : parse "" = none

/-- A value comes back from its text. -/
def JsonTexts.RoundTrips (texts : JsonTexts) (value : Json) : Prop :=
  texts.parse (texts.stringify value) = some value.reparsed

section Cookies

/- The digest `createHmac('sha256', secret).update(payload).digest()`. -/
variable (hmac : (secret payload : String) → List UInt8) (texts : JsonTexts)

def signature (payload secret : String) : String :=
  String.ofList (base64urlEncode (hmac secret payload))

def decodePayload (payload : String) : Option Json :=
  (texts.parse (decodeUtf8 (base64urlDecode payload.toList))).filter validSession

/-- The parameter `secret=sessionSecret()`. -/
def secretArgument (env : Environment) : Option String → Except String (Option String)
  | some key => .ok (some key)
  | none => sessionSecret env

/-- `encodeWebSessionCookie(session, secret)`, with `none` for a call without a
secret. -/
def encodeWebSessionCookie (env : Environment) (session : WebSession)
    (given : Option String) : Except String String := do
  let secret ← secretArgument env given
  throwIf (validSession session.toJson = false) "INVALID_WEB_SESSION"
  let payload := String.ofList
    (base64urlEncode (utf8Bytes (texts.stringify session.toJson).toList))
  if isConfigured secret then
    return payload ++ "." ++ signature hmac payload (secret.getD "")
  else
    throwIf env.isProduction "SIGNED_WEB_SESSION_REQUIRED"
    return payload

/-- `readWebSession` on the value of the cookie, if the jar has one. -/
def readWebSession (env : Environment) (cookie : Option String) :
    Except String (Option Json) := do
  let encoded := cookie.getD ""
  if encoded = "" then return none
  let secret ← sessionSecret env
  match lastIndexOf '.' encoded.toList with
  | some (separator + 1) =>
      if ¬ isConfigured secret then return none
      let payload := String.ofList (encoded.toList.take (separator + 1))
      let presented := String.ofList (encoded.toList.drop (separator + 2))
      let expected := signature hmac payload (secret.getD "")
      if utf8Bytes presented.toList ≠ utf8Bytes expected.toList then return none
      return decodePayload texts payload
  | none | some 0 =>
      if env.isProduction ∨ isConfigured secret then return none
      return decodePayload texts encoded

/-- A cookie that is read as one without a signature. -/
def IsUnsigned (cookie : String) : Prop :=
  ∀ separator ∈ lastIndexOf '.' cookie.toList, separator = 0

variable {hmac texts} {env : Environment}

theorem sessionSecret_eq_ok_iff {secret : Option String} :
    sessionSecret env = .ok secret ↔
      secret = env.webSessionHmacSecret ∧
        (env.isProduction → ∃ key ∈ secret, 32 ≤ utf16Length key) := by
  have longEnough : (∃ key ∈ env.webSessionHmacSecret, 32 ≤ utf16Length key) ↔
      ¬ (¬ isConfigured env.webSessionHmacSecret ∨
        env.webSessionHmacSecret.any (utf16Length · < 32)) := by
    cases env.webSessionHmacSecret with
    | none => simp [isConfigured]
    | some key =>
        have notEmpty : 32 ≤ utf16Length key → key ≠ "" := by
          rintro long rfl
          exact absurd long (by decide)
        simpa [isConfigured] using notEmpty
  rw [sessionSecret, bind_eq_ok]
  constructor
  · rintro ⟨_passed, passes, returned⟩
    obtain rfl := Except.ok.inj returned
    refine ⟨rfl, ?_⟩
    intro production
    exact longEnough.mpr fun fails => throwIf_eq_ok.mp passes ⟨production, fails⟩
  · rintro ⟨rfl, long⟩
    refine ⟨⟨⟩, throwIf_of_not ?_, rfl⟩
    rintro ⟨production, fails⟩
    exact longEnough.mp (long production) fails

theorem dot_notMem_signature (payload secret : String) :
    '.' ∉ (signature hmac payload secret).toList := by
  rw [signature, String.toList_ofList]
  exact dot_notMem_base64urlEncode _

private theorem toList_dotted (payload presented : String) :
    (payload ++ "." ++ presented).toList = payload.toList ++ '.' :: presented.toList := by
  rw [String.toList_append, String.toList_append, List.append_assoc]
  rfl

/-- A cookie is unsigned, or a payload and what is presented as its
signature. -/
theorem isUnsigned_or_signed (cookie : String) :
    IsUnsigned cookie ∨ ∃ payload presented, payload ≠ "" ∧ '.' ∉ presented.toList ∧
      cookie = payload ++ "." ++ presented := by
  cases found : lastIndexOf '.' cookie.toList with
  | none =>
      left
      rw [IsUnsigned, found]
      intro separator absent
      cases absent
  | some separator =>
      by_cases isFirst : separator = 0
      · left
        rw [IsUnsigned, found]
        intro other same
        exact (Option.some.inj same).symm.trans isFirst
      · right
        obtain ⟨divided, noDot⟩ := split_of_lastIndexOf found
        refine ⟨String.ofList (cookie.toList.take separator),
          String.ofList (cookie.toList.drop (separator + 1)), ?_, ?_, ?_⟩
        · intro isEmpty
          have nothing : cookie.toList.take separator = [] := by
            rw [← String.toList_ofList (l := cookie.toList.take separator), isEmpty]
            rfl
          rcases List.take_eq_nil_iff.mp nothing with isZero | noCookie
          · exact isFirst isZero
          · rw [noCookie] at found
            cases found
        · rwa [String.toList_ofList]
        · apply String.toList_injective
          rw [toList_dotted, String.toList_ofList, String.toList_ofList]
          exact divided

theorem readWebSession_signed {payload presented : String} (notEmpty : payload ≠ "")
    (noDot : '.' ∉ presented.toList) :
    readWebSession hmac texts env (some (payload ++ "." ++ presented)) =
      (sessionSecret env).map fun secret =>
        if isConfigured secret ∧ presented = signature hmac payload (secret.getD "") then
          decodePayload texts payload
        else none := by
  have cookieGiven : payload ++ "." ++ presented ≠ "" := by
    intro isEmpty
    have noCharacters := toList_dotted payload presented
    rw [isEmpty] at noCharacters
    exact List.append_ne_nil_of_right_ne_nil _ (List.cons_ne_nil _ _) noCharacters.symm
  have payloadLength : payload.toList.length ≠ 0 := by
    intro isZero
    exact notEmpty (String.toList_eq_nil_iff.mp (List.length_eq_zero_iff.mp isZero))
  have before : (payload.toList ++ '.' :: presented.toList).take payload.toList.length =
      payload.toList :=
    List.take_left
  have behind : (payload.toList ++ '.' :: presented.toList).drop (payload.toList.length + 1) =
      presented.toList := by
    rw [List.drop_append, List.drop_of_length_le (Nat.le_succ _), Nat.add_sub_cancel_left]
    rfl
  unfold readWebSession
  dsimp only [Option.getD_some]
  rw [if_neg cookieGiven, toList_dotted, lastIndexOf_append_cons _ noDot]
  cases sessionSecret env with
  | error message => rfl
  | ok secret =>
      rw [ok_bind]
      obtain ⟨separator, isLength⟩ := Nat.exists_eq_succ_of_ne_zero payloadLength
      rw [isLength] at before behind ⊢
      dsimp only
      rw [before, behind, String.ofList_toList, String.ofList_toList]
      by_cases configured : isConfigured secret
      · by_cases same : presented = signature hmac payload (secret.getD "")
        · have sameBytes : ¬ utf8Bytes presented.toList ≠
              utf8Bytes (signature hmac payload (secret.getD "")).toList :=
            not_not_intro (congrArg (utf8Bytes ·.toList) same)
          rw [if_neg (not_not_intro configured), if_neg sameBytes]
          exact congrArg Except.ok (if_pos ⟨configured, same⟩).symm
        · have otherBytes : utf8Bytes presented.toList ≠
              utf8Bytes (signature hmac payload (secret.getD "")).toList :=
            fun sameBytes => same (utf8Bytes_injective sameBytes)
          rw [if_neg (not_not_intro configured), if_pos otherBytes]
          exact congrArg Except.ok (if_neg fun both => same both.2).symm
      · rw [if_pos configured]
        exact congrArg Except.ok (if_neg fun both => configured both.1).symm

theorem readWebSession_unsigned {cookie : String} (unsigned : IsUnsigned cookie)
    (notEmpty : cookie ≠ "") :
    readWebSession hmac texts env (some cookie) =
      (sessionSecret env).map fun secret =>
        if env.isProduction ∨ isConfigured secret then none else decodePayload texts cookie := by
  unfold readWebSession
  dsimp only [Option.getD_some]
  rw [if_neg notEmpty]
  cases sessionSecret env with
  | error message => rfl
  | ok secret =>
      rw [ok_bind]
      split
      · next separator found =>
        exact absurd (unsigned _ found) (Nat.succ_ne_zero separator)
      · exact (apply_ite Except.ok _ _ _).symm
      · exact (apply_ite Except.ok _ _ _).symm

/-- A session is read from a signature of its payload, or from an unsigned
cookie where none is asked for. -/
theorem readWebSession_eq_some_iff {cookie : String} {session : Json} :
    readWebSession hmac texts env (some cookie) = .ok (some session) ↔
      (∃ key payload, sessionSecret env = .ok (some key) ∧ key ≠ "" ∧ payload ≠ "" ∧
        cookie = payload ++ "." ++ signature hmac payload key ∧
        decodePayload texts payload = some session) ∨
      (¬ env.isProduction ∧ ¬ isConfigured env.webSessionHmacSecret ∧ IsUnsigned cookie ∧
        cookie ≠ "" ∧ decodePayload texts cookie = some session) := by
  constructor
  · intro accepted
    by_cases notEmpty : cookie = ""
    · subst notEmpty
      cases accepted
    rcases isUnsigned_or_signed cookie with
      unsigned | ⟨payload, presented, payloadGiven, noDot, rfl⟩
    · right
      rw [readWebSession_unsigned unsigned notEmpty] at accepted
      obtain ⟨secret, isSecret, read⟩ := map_eq_ok.mp accepted
      split at read
      · cases read
      · next notRefused =>
        obtain ⟨notProduction, notConfigured⟩ := not_or.mp notRefused
        rw [(sessionSecret_eq_ok_iff.mp isSecret).1] at notConfigured
        exact ⟨notProduction, notConfigured, unsigned, notEmpty, read⟩
    · left
      rw [readWebSession_signed payloadGiven noDot] at accepted
      obtain ⟨secret, isSecret, read⟩ := map_eq_ok.mp accepted
      split at read
      · next both =>
        obtain ⟨⟨key, isKey, keyGiven⟩, same⟩ := both
        obtain rfl := Option.mem_def.mp isKey
        exact ⟨key, payload, isSecret, keyGiven, payloadGiven, congrArg _ same, read⟩
      · cases read
  · rintro (⟨key, payload, isSecret, keyGiven, payloadGiven, rfl, decoded⟩ |
      ⟨notProduction, notConfigured, unsigned, notEmpty, decoded⟩)
    · rw [readWebSession_signed payloadGiven (dot_notMem_signature payload key), isSecret]
      exact congrArg Except.ok ((if_pos ⟨⟨key, rfl, keyGiven⟩, rfl⟩).trans decoded)
    · have isSecret : sessionSecret env = .ok env.webSessionHmacSecret :=
        sessionSecret_eq_ok_iff.mpr ⟨rfl, fun production => absurd production notProduction⟩
      rw [readWebSession_unsigned unsigned notEmpty, isSecret]
      exact congrArg Except.ok
        ((if_neg (not_or.mpr ⟨notProduction, notConfigured⟩)).trans decoded)

private theorem reparsedItems_strings (texts : List String) :
    Json.reparsedItems (texts.map .str) = texts.map .str := by
  induction texts with
  | nil => rfl
  | cons text rest inductionHypothesis =>
      exact congrArg (List.cons (Json.str text)) inductionHypothesis

private theorem reparsedFields_booleans (features : List (String × Bool)) :
    Json.reparsedFields (features.map fun feature => (feature.1, .bool feature.2)) =
      features.map fun feature => (feature.1, .bool feature.2) := by
  induction features with
  | nil => rfl
  | cons feature rest inductionHypothesis =>
      exact congrArg (List.cons (feature.1, Json.bool feature.2)) inductionHypothesis

/-- A session has no number in it, so its text loses nothing. -/
theorem WebSession.reparsed_toJson (session : WebSession) :
    session.toJson.reparsed = session.toJson := by
  obtain ⟨userId, tenantId, workspaceId, permissions, features⟩ := session
  cases workspaceId <;> cases features <;>
    simp [WebSession.toJson, Json.reparsed, Json.reparsedFields, reparsedItems_strings,
      reparsedFields_booleans]

/-- The type already says all that is checked but that the names are there. -/
theorem validSession_toJson (session : WebSession) :
    validSession session.toJson = true ↔ session.userId ≠ "" ∧ session.tenantId ≠ "" := by
  have lengthCheck : ∀ name : String, isNonEmptyString (.str name) = true ↔ name ≠ "" := by
    intro name
    rw [isNonEmptyString, decide_eq_true_eq, gt_iff_lt, Nat.pos_iff_ne_zero, ne_eq,
      String.length_eq_zero_iff]
  obtain ⟨userId, tenantId, workspaceId, permissions, features⟩ := session
  cases workspaceId <;> cases features <;>
    simp [WebSession.toJson, validSession, List.lookup_cons, arePermissions, isString,
      validFeatureMap, isBoolean, lengthCheck]

/-- A valid session is decoded from its payload, which is not empty. -/
private theorem decodePayload_encoded {session : WebSession}
    (valid : validSession session.toJson = true) (roundTrips : texts.RoundTrips session.toJson) :
    decodePayload texts (String.ofList
        (base64urlEncode (utf8Bytes (texts.stringify session.toJson).toList))) =
      some session.toJson ∧
    String.ofList (base64urlEncode (utf8Bytes (texts.stringify session.toJson).toList)) ≠ "" := by
  have decoded : decodePayload texts (String.ofList
      (base64urlEncode (utf8Bytes (texts.stringify session.toJson).toList))) =
        some session.toJson := by
    rw [decodePayload, String.toList_ofList, base64urlDecode_encode, decodeUtf8_utf8Bytes,
      roundTrips, session.reparsed_toJson]
    exact if_pos valid
  refine ⟨decoded, ?_⟩
  intro isEmpty
  have noText : decodeUtf8 (base64urlDecode "".toList) = "" := by decide
  rw [isEmpty, decodePayload, noText, texts.parse_empty] at decoded
  cases decoded

private theorem isUnsigned_payload (bytes : List UInt8) :
    IsUnsigned (String.ofList (base64urlEncode bytes)) := by
  rw [IsUnsigned, String.toList_ofList,
    lastIndexOf_eq_none_iff.mpr (dot_notMem_base64urlEncode bytes)]
  intro separator absent
  cases absent

/-- What is encoded under the secret of an environment that accepts it is read
back there. -/
theorem exists_encoded_and_read {session : WebSession}
    (accepted : sessionSecret env = .ok env.webSessionHmacSecret)
    (valid : validSession session.toJson = true) (roundTrips : texts.RoundTrips session.toJson)
    {given : Option String} (sameSecret : given = none ∨ given = env.webSessionHmacSecret) :
    ∃ cookie, encodeWebSessionCookie hmac texts env session given = .ok cookie ∧
      readWebSession hmac texts env (some cookie) = .ok (some session.toJson) := by
  have effective : secretArgument env given = .ok env.webSessionHmacSecret := by
    cases given with
    | none => exact accepted
    | some key =>
        rcases sameSecret with absent | same
        · cases absent
        · exact congrArg Except.ok same
  have longInProduction := (sessionSecret_eq_ok_iff.mp accepted).2
  obtain ⟨decoded, payloadGiven⟩ := decodePayload_encoded valid roundTrips
  unfold encodeWebSessionCookie
  rw [effective, ok_bind, throwIf_of_not (by rw [valid]; decide), ok_bind]
  dsimp only
  by_cases configured : isConfigured env.webSessionHmacSecret
  · rw [if_pos configured]
    refine ⟨_, rfl, readWebSession_eq_some_iff.mpr (Or.inl ?_)⟩
    obtain ⟨key, isKey, keyGiven⟩ := configured
    have isSecret : env.webSessionHmacSecret = some key := isKey
    rw [isSecret] at accepted ⊢
    exact ⟨key, _, accepted, keyGiven, payloadGiven, rfl, decoded⟩
  · have notProduction : ¬ env.isProduction := by
      intro production
      obtain ⟨key, isKey, long⟩ := longInProduction production
      refine configured ⟨key, isKey, ?_⟩
      rintro rfl
      exact absurd long (by decide)
    rw [if_neg configured, throwIf_of_not notProduction]
    exact ⟨_, rfl, readWebSession_eq_some_iff.mpr
      (Or.inr ⟨notProduction, configured, isUnsigned_payload _, payloadGiven, decoded⟩)⟩

/-- Under a secret the environment accepts, a valid session is read back from
its cookie; with a secret configured, what is read was signed with it; and a
cookie without a signature is read only where no secret is configured and the
environment is not production. -/
theorem webSessionCookies (hmac : (secret payload : String) → List UInt8) (texts : JsonTexts)
    (env : Environment) :
    (∀ (session : WebSession) (given : Option String),
      validSession session.toJson = true → texts.RoundTrips session.toJson →
      sessionSecret env = .ok env.webSessionHmacSecret →
      given = none ∨ given = env.webSessionHmacSecret →
      ∃ cookie, encodeWebSessionCookie hmac texts env session given = .ok cookie ∧
        readWebSession hmac texts env (some cookie) = .ok (some session.toJson)) ∧
    (∀ (cookie key : String) (session : Json),
      env.webSessionHmacSecret = some key → key ≠ "" →
      readWebSession hmac texts env (some cookie) = .ok (some session) →
      ∃ payload presented, cookie = payload ++ "." ++ presented ∧ '.' ∉ presented.toList ∧
        presented = signature hmac payload key ∧ decodePayload texts payload = some session) ∧
    (∀ (cookie : String) (session : Json),
      IsUnsigned cookie → env.isProduction ∨ isConfigured env.webSessionHmacSecret →
      readWebSession hmac texts env (some cookie) ≠ .ok (some session)) := by
  refine ⟨?_, ?_, ?_⟩
  · intro session given valid roundTrips accepted sameSecret
    exact exists_encoded_and_read accepted valid roundTrips sameSecret
  · intro cookie key session isKey keyGiven read
    rcases readWebSession_eq_some_iff.mp read with
      ⟨used, payload, isSecret, _usedGiven, _payloadGiven, rfl, decoded⟩ |
      ⟨_notProduction, notConfigured, _unsigned, _notEmpty, _decoded⟩
    · have sameKey : used = key :=
        Option.some.inj ((sessionSecret_eq_ok_iff.mp isSecret).1.trans isKey)
      subst sameKey
      exact ⟨payload, _, rfl, dot_notMem_signature payload used, rfl, decoded⟩
    · exact absurd ⟨key, isKey, keyGiven⟩ notConfigured
  · intro cookie session unsigned asked read
    rcases readWebSession_eq_some_iff.mp read with
      ⟨key, payload, _isSecret, _keyGiven, payloadGiven, rfl, _decoded⟩ |
      ⟨notProduction, notConfigured, _unsigned, _notEmpty, _decoded⟩
    · have found := lastIndexOf_append_cons payload.toList
        (@dot_notMem_signature hmac payload key)
      rw [← toList_dotted] at found
      have isZero := unsigned _ found
      exact payloadGiven (String.toList_eq_nil_iff.mp (List.length_eq_zero_iff.mp isZero))
    · exact asked.elim notProduction notConfigured

end Cookies

section Examples

/-- The session of a user without permissions. -/
def bareSession : WebSession where
  userId := "u1"
  tenantId := "t1"
  permissions := []

def bareText : String :=
  "\x7b\"userId\":\"u1\",\"tenantId\":\"t1\",\"permissions\":[]\x7d"

/-- Writing and reading the JSON text of `bareSession`. -/
def bareTexts : JsonTexts where
  stringify _ := bareText
  parse text := if text = bareText then some bareSession.toJson else none
  parse_empty := if_neg (by decide)

private theorem bareTexts_roundTrips : bareTexts.RoundTrips bareSession.toJson := by
  rw [JsonTexts.RoundTrips, bareSession.reparsed_toJson]
  show (if bareText = bareText then some bareSession.toJson else none) = _
  exact if_pos rfl

def productionEnvironment (secret : String) : Environment where
  nodeEnv := some "production"
  webSessionHmacSecret := some secret

/-- A session signed with 32 characters in production is read back there. -/
theorem webSessionCookies_bareSession :
    ∃ cookie, encodeWebSessionCookie (fun _secret _payload => [1, 2, 3]) bareTexts
        (productionEnvironment "01234567890123456789012345678901") bareSession none =
          .ok cookie ∧
      readWebSession (fun _secret _payload => [1, 2, 3]) bareTexts
        (productionEnvironment "01234567890123456789012345678901") (some cookie) =
          .ok (some bareSession.toJson) :=
  (webSessionCookies _ bareTexts (productionEnvironment "01234567890123456789012345678901")).1
    bareSession none (by decide) bareTexts_roundTrips (by decide) (Or.inl rfl)

/-- A shorter secret that is given signs a cookie in production that no one can
read there. -/
theorem encoded_under_short_secret :
    ¬ ∀ (hmac : (secret payload : String) → List UInt8) (texts : JsonTexts) (env : Environment)
      (session : WebSession) (key cookie : String),
      validSession session.toJson = true → texts.RoundTrips session.toJson →
      env.webSessionHmacSecret = some key →
      encodeWebSessionCookie hmac texts env session (some key) = .ok cookie →
      readWebSession hmac texts env (some cookie) = .ok (some session.toJson) := by
  intro readsBack
  have read := readsBack (fun _secret _payload => [1, 2, 3]) bareTexts
    (productionEnvironment "short") bareSession "short" _ (by decide) bareTexts_roundTrips rfl rfl
  rcases readWebSession_eq_some_iff.mp read with
    ⟨key, _payload, isSecret, _given⟩ | ⟨notProduction, _given⟩
  · obtain ⟨isKey, longEnough⟩ := sessionSecret_eq_ok_iff.mp isSecret
    obtain ⟨long, isLong, enough⟩ := longEnough rfl
    obtain rfl := Option.some.inj ((Option.mem_def.mp isLong).symm.trans isKey)
    exact absurd enough (by decide)
  · exact notProduction rfl

end Examples

end PlatformArchitecture.Web
