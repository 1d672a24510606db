import PlatformArchitecture.Foundations.Checks
import PlatformArchitecture.Foundations.HexTexts
import PlatformArchitecture.Foundations.JsNumbers
import PlatformArchitecture.Foundations.TextEncodings

/-!
# Signed webhooks

Two functions verify the signature of a webhook.  One decodes the digits of the
signature and compares bytes, so it takes every spelling of the digest; the
other compares texts after counting their units, and fails with an error of its
own where the texts have as many units and not as many bytes.
-/

namespace PlatformArchitecture.Security

open PlatformArchitecture.Foundations

/-! ## Numbers with rounding -/

/-- A number of the language, with `none` for `NaN`. -/
abbrev Double :=
  Option JsNumber

section Numbers

/- The number nearest to an exact result; it is infinite where that is beyond
the largest one. -/
variable (rounded : ℚ → JsNumber)

/-- `value * 1000`. -/
def timesThousand : JsNumber → JsNumber
  | .finite value => rounded (value * 1000)
  | .infinite negative => .infinite negative

/-- `left - right`. -/
def difference : JsNumber → JsNumber → Double
  | .finite left, .finite right => some (rounded (left - right))
  | .finite _, .infinite negative => some (.infinite !negative)
  | .infinite negative, .finite _ => some (.infinite negative)
  | .infinite left, .infinite right => if left = right then none else some (.infinite left)

/-- `Math.abs(value)`. -/
def absolute : JsNumber → JsNumber
  | .finite value => .finite |value|
  | .infinite _ => .infinite false

/-- `left > right`. -/
def exceeds : Double → Double → Bool
  | some left, some right => decide (right < left)
  | _, _ => false

/-- `Number.isFinite(value)`. -/
def isFiniteNumber : Double → Bool
  | some (.finite _) => true
  | _ => false

end Numbers

/-! ## The two functions -/

/-- What the functions are called with, for either type of body.  `clock` is
what `Date.now()` returns. -/
structure SignedWebhook (Body : Type) where
  rawBody : Body
  signature : String
  timestamp : String
  secret : String
  toleranceSeconds : Option Double
  nowMs : Option Double
  clock : Nat

/-- An error and its code. -/
structure WebhookError where
  code : String
  message : String
  deriving DecidableEq

/-- `timingSafeEqual(a, b)` throws a `RangeError` for buffers of different
lengths. -/
def timingSafeEqual (a b : List UInt8) : Except WebhookError Bool :=
  if a.length ≠ b.length then
    .error ⟨"ERR_CRYPTO_TIMING_SAFE_EQUAL_LENGTH",
      "Input buffers must have the same byte length"⟩
  else
    .ok (decide (a = b))

/-- `sameLength && timingSafeEqual(a, b)`. -/
def comparedBytes (sameLength : Bool) (a b : List UInt8) : Except WebhookError Bool :=
  if sameLength then timingSafeEqual a b else .ok false

def signaturePrefix : List Char :=
  "sha256=".toList

/-- `signature.replace(/^sha256=/, '')`. -/
def withoutPrefix (signature : List Char) : List Char :=
  if signaturePrefix.isPrefixOf signature then signature.drop signaturePrefix.length
  else signature

def replayRejected : WebhookError :=
  ⟨"WEBHOOK_REPLAY_REJECTED", "Webhook timestamp outside replay window"⟩

abbrev Digest :=
  { bytes : List UInt8 // bytes.length = 32 }

section Verification

/- `createHmac('sha256', secret).update(data).digest()`, the number that a text
stands for, and the rounding of results. -/
variable (hmac : (secret : String) → (data : List UInt8) → Digest)
  (number : String → Double) (rounded : ℚ → JsNumber)

section Window

variable {Body : Type} (webhook : SignedWebhook Body)

/-- `Number(timestamp)*1000`. -/
def milliseconds : Double :=
  (number webhook.timestamp).map (timesThousand rounded)

/-- `Math.abs(now - ts*1000) > tolerance*1000`. -/
def isOutside : Bool :=
  let now := webhook.nowMs.getD (some webhook.clock)
  let tolerance := webhook.toleranceSeconds.getD (some (300 : Nat))
  let distance := do difference rounded (← now) (← milliseconds number rounded webhook)
  exceeds (distance.map absolute) (tolerance.map (timesThousand rounded))

end Window

namespace Section20

def verifySignedWebhook (webhook : SignedWebhook String) : Except WebhookError Unit := do
  throwIf (isFiniteNumber (number webhook.timestamp) = false ∨
    isOutside number rounded webhook = true) replayRejected
  let digest := hmac webhook.secret
    (utf8Bytes (webhook.timestamp ++ "." ++ webhook.rawBody).toList)
  let expected := hexEncode digest.val
  let supplied := withoutPrefix webhook.signature.toList
  let a := hexDecode expected
  let b := hexDecode supplied
  let equal ← comparedBytes (a.length = b.length) a b
  throwIf (equal = false) ⟨"WEBHOOK_SIGNATURE_INVALID", "Webhook signature invalid"⟩

end Section20

namespace WebhookSecurity

def verifySignedWebhook (webhook : SignedWebhook (List UInt8)) : Except WebhookError Unit := do
  throwIf (isFiniteNumber (milliseconds number rounded webhook) = false ∨
    isOutside number rounded webhook = true) replayRejected
  let digest := hmac webhook.secret
    (utf8Bytes (webhook.timestamp ++ ".").toList ++ webhook.rawBody)
  let expected := hexEncode digest.val
  let actual := withoutPrefix webhook.signature.toList
  let sameLength := utf16Length (String.ofList actual) = utf16Length (String.ofList expected)
  let equal ← comparedBytes sameLength (utf8Bytes actual) (utf8Bytes expected)
  throwIf (equal = false) ⟨"WEBHOOK_SIGNATURE_INVALID", "Invalid webhook signature"⟩

end WebhookSecurity

/-! ## What the two have in common -/

/-- The same webhook with the bytes of its body. -/
def SignedWebhook.bytes (webhook : SignedWebhook String) : SignedWebhook (List UInt8) where
  rawBody := utf8Bytes webhook.rawBody.toList
  signature := webhook.signature
  timestamp := webhook.timestamp
  secret := webhook.secret
  toleranceSeconds := webhook.toleranceSeconds
  nowMs := webhook.nowMs
  clock := webhook.clock

section Webhook

variable (webhook : SignedWebhook String)

/-- The digest that both functions compare with. -/
def digest : List UInt8 :=
  (hmac webhook.secret
    (utf8Bytes (webhook.timestamp ++ "." ++ webhook.rawBody).toList)).val

def supplied : List Char :=
  withoutPrefix webhook.signature.toList

/-- The timestamp is the number of a time, and not outside the window. -/
def InWindow : Prop :=
  isFiniteNumber (milliseconds number rounded webhook) = true ∧
    isOutside number rounded webhook = false

/-- The timestamp is inside the window and the signature is the digest in
lower-case digits, with or without the prefix. -/
structure Legitimate : Prop where
  inWindow : InWindow number rounded webhook
  signed : webhook.signature.toList = hexEncode (digest hmac webhook) ∨
    webhook.signature.toList = signaturePrefix ++ hexEncode (digest hmac webhook)

/-- Both functions accept the webhook just when it is legitimate, and reject it
with one of their two codes otherwise. -/
structure WebhooksAgree : Prop where
  section20 : Section20.verifySignedWebhook hmac number rounded webhook = .ok () ↔
    Legitimate hmac number rounded webhook
  webhookSecurity : WebhookSecurity.verifySignedWebhook hmac number rounded webhook.bytes =
    .ok () ↔ Legitimate hmac number rounded webhook
  codes : ∀ error,
    (Section20.verifySignedWebhook hmac number rounded webhook = .error error ∨
      WebhookSecurity.verifySignedWebhook hmac number rounded webhook.bytes = .error error) →
    error.code ∈ ["WEBHOOK_REPLAY_REJECTED", "WEBHOOK_SIGNATURE_INVALID"]

/-- While the timestamp is not outside the window, the signature spells the
digest only if it is the digest in lower-case digits and the timestamp the
number of a time; and inside the window a signature of 64 units is ASCII. -/
structure SpelledExactly : Prop where
  spelling : isFiniteNumber (number webhook.timestamp) = true →
    isOutside number rounded webhook = false →
      SpellsBytes (digest hmac webhook) (supplied webhook) →
        isFiniteNumber (milliseconds number rounded webhook) = true ∧
          supplied webhook = hexEncode (digest hmac webhook)
  ascii : InWindow number rounded webhook →
    utf16Length (String.ofList (supplied webhook)) = 64 →
      ∀ c ∈ supplied webhook, c.toNat < 128

end Webhook

end Verification

/-! ## Units and bytes of a signature -/

private theorem utf8Size_eq (c : Char) :
    c.utf8Size =
      if c.toNat ≤ 0x7F then 1 else if c.toNat ≤ 0x7FF then 2
      else if c.toNat ≤ 0xFFFF then 3 else 4 := by
  simp only [Char.utf8Size, UInt32.le_iff_toNat_le]
  rfl

private theorem utf8Size_bounds (c : Char) :
    (c.toNat < 128 → c.utf8Size = 1) ∧ (¬ c.toNat < 128 → 2 ≤ c.utf8Size) ∧
      (¬ c.toNat < 0x10000 → 3 ≤ c.utf8Size) := by
  rw [utf8Size_eq]
  split
  · omega
  · split
    · omega
    · split
      · omega
      · omega

theorem utf16Length_cons (c : Char) (rest : List Char) :
    utf16Length (String.ofList (c :: rest)) =
      (if c.toNat < 0x10000 then 1 else 2) + utf16Length (String.ofList rest) := by
  unfold utf16Length utf16Units
  rw [String.toList_ofList, String.toList_ofList, List.flatMap_cons, List.length_append]
  split
  · rfl
  · rfl

theorem length_utf8Bytes_cons (c : Char) (rest : List Char) :
    (utf8Bytes (c :: rest)).length = c.utf8Size + (utf8Bytes rest).length := by
  rw [utf8Bytes, List.flatMap_cons, List.length_append, String.length_utf8EncodeChar]
  rfl

/-- A text has as many units as bytes where it is ASCII, and more bytes
elsewhere. -/
theorem utf16Length_le_and_eq_iff (chars : List Char) :
    utf16Length (String.ofList chars) ≤ (utf8Bytes chars).length ∧
      ((utf8Bytes chars).length = utf16Length (String.ofList chars) ↔
        ∀ c ∈ chars, c.toNat < 128) := by
  induction chars with
  | nil => simp [utf16Length, utf16Units, utf8Bytes]
  | cons c rest inductionHypothesis =>
      obtain ⟨ascii, wide, astral⟩ := utf8Size_bounds c
      obtain ⟨fewer, restIff⟩ := inductionHypothesis
      rw [utf16Length_cons, length_utf8Bytes_cons, List.forall_mem_cons, ← restIff]
      by_cases isAscii : c.toNat < 128
      · have one := ascii isAscii
        rw [one, if_pos (by omega)]
        omega
      · have two := wide isAscii
        by_cases basic : c.toNat < 0x10000
        · rw [if_pos basic]
          omega
        · have three := astral basic
          rw [if_neg basic]
          omega

/-- A signature without its prefix is the digest where it was the digest with
or without it. -/
theorem withoutPrefix_eq_hexEncode_iff (signature : List Char) (bytes : List UInt8) :
    withoutPrefix signature = hexEncode bytes ↔
      signature = hexEncode bytes ∨ signature = signaturePrefix ++ hexEncode bytes := by
  unfold withoutPrefix
  constructor
  · intro same
    split at same
    · next hasPrefix =>
      obtain ⟨rest, rfl⟩ := List.isPrefixOf_iff_prefix.mp hasPrefix
      rw [List.drop_left] at same
      exact .inr (congrArg (signaturePrefix ++ ·) same)
    · exact .inl same
  · rintro (rfl | rfl)
    · have noPrefix : ¬ signaturePrefix.isPrefixOf (hexEncode bytes) = true := by
        intro hasPrefix
        obtain ⟨rest, isPrefix⟩ := List.isPrefixOf_iff_prefix.mp hasPrefix
        have member : 's' ∈ hexEncode bytes := by
          rw [← isPrefix]
          exact List.mem_append_left rest (by decide)
        exact (mem_hexEncode member).2.1 rfl
      rw [if_neg noPrefix]
    · rw [if_pos (List.isPrefixOf_iff_prefix.mpr (List.prefix_append _ _)), List.drop_left]

/-! ## When the functions accept -/

section Acceptance

variable {hmac : (secret : String) → (data : List UInt8) → Digest} {number : String → Double}
  {rounded : ℚ → JsNumber} {webhook : SignedWebhook String}

theorem comparedBytes_of_length {a b : List UInt8} (sameLength : a.length = b.length) :
    comparedBytes true a b = .ok (decide (a = b)) := by
  rw [comparedBytes, if_pos rfl, timingSafeEqual, if_neg (not_not.mpr sameLength)]

/-- Where the lengths compared are those of the buffers, nothing is thrown. -/
theorem comparedBytes_lengths (a b : List UInt8) :
    comparedBytes (a.length = b.length) a b = .ok (decide (a = b)) := by
  by_cases sameLength : a.length = b.length
  · rw [decide_eq_true sameLength, comparedBytes_of_length sameLength]
  · have different : a ≠ b := fun same => sameLength (congrArg List.length same)
    rw [decide_eq_false sameLength, decide_eq_false different]
    rfl

/-- The number of a time has a number of seconds. -/
theorem isFiniteNumber_of_milliseconds
    (finite : isFiniteNumber (milliseconds number rounded webhook) = true) :
    isFiniteNumber (number webhook.timestamp) = true := by
  unfold milliseconds at finite
  cases seconds : number webhook.timestamp with
  | none =>
      rw [seconds] at finite
      cases finite
  | some value =>
      cases value with
      | finite value => rfl
      | infinite negative =>
          rw [seconds] at finite
          cases finite

/-- Both functions make the same digest. -/
theorem digest_bytes (hmac : (secret : String) → (data : List UInt8) → Digest)
    (webhook : SignedWebhook String) :
    (hmac webhook.secret (utf8Bytes (webhook.timestamp ++ ".").toList ++
      utf8Bytes webhook.rawBody.toList)).val = digest hmac webhook := by
  have joined : utf8Bytes (webhook.timestamp ++ "." ++ webhook.rawBody).toList =
      utf8Bytes (webhook.timestamp ++ ".").toList ++ utf8Bytes webhook.rawBody.toList := by
    rw [String.toList_append]
    exact List.flatMap_append
  rw [digest, joined]

theorem utf16Length_of_ascii {chars : List Char} (ascii : ∀ c ∈ chars, c.toNat < 128) :
    utf16Length (String.ofList chars) = chars.length := by
  induction chars with
  | nil => simp [utf16Length, utf16Units]
  | cons c rest inductionHypothesis =>
      have isAscii := ascii c List.mem_cons_self
      have others := inductionHypothesis fun other member =>
        ascii other (List.mem_cons_of_mem c member)
      rw [utf16Length_cons, if_pos (by omega), others, List.length_cons]
      omega

theorem utf16Length_hexEncode (bytes : Digest) :
    utf16Length (String.ofList (hexEncode bytes.val)) = 64 := by
  rw [utf16Length_of_ascii fun _c member => (mem_hexEncode member).2.2, length_hexEncode,
    bytes.property]

section Steps

variable {outside : Prop} [Decidable outside] {compared : Except WebhookError Bool}
  {invalid : WebhookError}

/-- Both functions check the window, compare and throw if the two differ. -/
def checkedSteps (outside : Prop) [Decidable outside] (compared : Except WebhookError Bool)
    (invalid : WebhookError) : Except WebhookError Unit := do
  throwIf outside replayRejected
  let equal ← compared
  throwIf (equal = false) invalid

theorem checkedSteps_eq_ok_iff :
    checkedSteps outside compared invalid = .ok () ↔ ¬ outside ∧ compared = .ok true := by
  unfold checkedSteps
  rw [bind_eq_ok]
  constructor
  · rintro ⟨_passed, inside, rest⟩
    obtain ⟨equal, isEqual, passes⟩ := bind_eq_ok.mp rest
    rw [throwIf_eq_ok, Bool.not_eq_false] at passes
    exact ⟨throwIf_eq_ok.mp inside, passes ▸ isEqual⟩
  · rintro ⟨inside, isEqual⟩
    refine ⟨⟨⟩, throwIf_of_not inside, ?_⟩
    rw [isEqual]
    rfl

/-- An error is one of the two of the function, or that of the comparison. -/
theorem checkedSteps_eq_error {error : WebhookError}
    (failed : checkedSteps outside compared invalid = .error error) :
    error = replayRejected ∨ error = invalid ∨ ¬ outside ∧ compared = .error error := by
  unfold checkedSteps at failed
  by_cases isOut : outside
  · rw [throwIf_of_pos isOut, error_bind] at failed
    exact .inl (Except.error.inj failed).symm
  · rw [throwIf_of_not isOut, ok_bind] at failed
    cases compared with
    | error other =>
        rw [error_bind] at failed
        have same : other = error := Except.error.inj failed
        exact .inr (.inr ⟨isOut, congrArg Except.error same⟩)
    | ok equal =>
        rw [ok_bind] at failed
        cases equal with
        | true => cases failed
        | false => exact .inr (.inl (Except.error.inj failed).symm)

theorem checkedSteps_error {error : WebhookError} (inside : ¬ outside)
    (thrown : compared = .error error) :
    checkedSteps outside compared invalid = .error error := by
  unfold checkedSteps
  rw [throwIf_of_not inside, ok_bind, thrown, error_bind]

end Steps

/-- The check of the window passes. -/
theorem not_outside_iff (finite outside : Bool) :
    ¬ (finite = false ∨ outside = true) ↔ finite = true ∧ outside = false := by
  rw [not_or, Bool.not_eq_false, Bool.not_eq_true]

namespace Section20

theorem verifySignedWebhook_eq :
    verifySignedWebhook hmac number rounded webhook =
      checkedSteps
        (isFiniteNumber (number webhook.timestamp) = false ∨
          isOutside number rounded webhook = true)
        (.ok (decide (digest hmac webhook = hexDecode (supplied webhook))))
        ⟨"WEBHOOK_SIGNATURE_INVALID", "Webhook signature invalid"⟩ := by
  have decoded : hexDecode (hexEncode (digest hmac webhook)) = digest hmac webhook :=
    hexDecode_hexEncode _
  have compared := comparedBytes_lengths (hexDecode (hexEncode (digest hmac webhook)))
    (hexDecode (supplied webhook))
  rw [checkedSteps, ← decoded, ← compared]
  rfl

/-- The function takes every spelling of the digest. -/
theorem verifySignedWebhook_eq_ok_iff :
    verifySignedWebhook hmac number rounded webhook = .ok () ↔
      (isFiniteNumber (number webhook.timestamp) = true ∧
        isOutside number rounded webhook = false) ∧
        SpellsBytes (digest hmac webhook) (supplied webhook) := by
  rw [verifySignedWebhook_eq, checkedSteps_eq_ok_iff, not_outside_iff, Except.ok.injEq,
    decide_eq_true_eq, ← hexDecode_eq_iff]
  exact and_congr_right fun _inWindow => eq_comm

end Section20

namespace WebhookSecurity

theorem verifySignedWebhook_eq :
    verifySignedWebhook hmac number rounded webhook.bytes =
      checkedSteps
        (isFiniteNumber (milliseconds number rounded webhook) = false ∨
          isOutside number rounded webhook = true)
        (comparedBytes (utf16Length (String.ofList (supplied webhook)) = 64)
          (utf8Bytes (supplied webhook)) (utf8Bytes (hexEncode (digest hmac webhook))))
        ⟨"WEBHOOK_SIGNATURE_INVALID", "Invalid webhook signature"⟩ := by
  have units := utf16Length_hexEncode (hmac webhook.secret
    (utf8Bytes (webhook.timestamp ++ ".").toList ++ utf8Bytes webhook.rawBody.toList))
  rw [checkedSteps, ← units, ← digest_bytes]
  rfl

/-- The function takes the digest in lower-case digits only. -/
theorem verifySignedWebhook_eq_ok_iff :
    verifySignedWebhook hmac number rounded webhook.bytes = .ok () ↔
      InWindow number rounded webhook ∧ supplied webhook = hexEncode (digest hmac webhook) := by
  have hexUnits : utf16Length (String.ofList (hexEncode (digest hmac webhook))) = 64 :=
    utf16Length_hexEncode _
  rw [verifySignedWebhook_eq, checkedSteps_eq_ok_iff, not_outside_iff, InWindow]
  refine and_congr_right fun _inWindow => ?_
  constructor
  · intro compared
    unfold comparedBytes timingSafeEqual at compared
    split at compared
    · split at compared
      · cases compared
      · have sameBytes := of_decide_eq_true (Except.ok.inj compared)
        have sameText : String.ofList (supplied webhook) =
            String.ofList (hexEncode (digest hmac webhook)) := by
          refine utf8Bytes_injective ?_
          rw [String.toList_ofList, String.toList_ofList]
          exact sameBytes
        exact String.ofList_injective sameText
    · cases compared
  · intro same
    rw [same, decide_eq_true hexUnits, comparedBytes_of_length rfl, decide_eq_true rfl]

/-- It throws an error of another kind for a text of as many units that is not
ASCII. -/
theorem verifySignedWebhook_codes_iff :
    (∀ error, verifySignedWebhook hmac number rounded webhook.bytes = .error error →
      error.code ∈ ["WEBHOOK_REPLAY_REJECTED", "WEBHOOK_SIGNATURE_INVALID"]) ↔
      (InWindow number rounded webhook →
        utf16Length (String.ofList (supplied webhook)) = 64 →
          ∀ c ∈ supplied webhook, c.toNat < 128) := by
  have sizes := utf16Length_le_and_eq_iff (supplied webhook)
  have hexSizes := utf16Length_le_and_eq_iff (hexEncode (digest hmac webhook))
  have hexUnits : utf16Length (String.ofList (hexEncode (digest hmac webhook))) = 64 :=
    utf16Length_hexEncode _
  have hexBytes := hexSizes.2.mpr fun _c member => (mem_hexEncode member).2.2
  rw [verifySignedWebhook_eq]
  constructor
  · intro codes inWindow units
    by_contra wide
    have different : (utf8Bytes (supplied webhook)).length ≠
        (utf8Bytes (hexEncode (digest hmac webhook))).length := by
      intro sameLength
      exact wide (sizes.2.mp (by omega))
    have thrown : comparedBytes (utf16Length (String.ofList (supplied webhook)) = 64)
        (utf8Bytes (supplied webhook)) (utf8Bytes (hexEncode (digest hmac webhook))) =
          .error ⟨"ERR_CRYPTO_TIMING_SAFE_EQUAL_LENGTH",
            "Input buffers must have the same byte length"⟩ := by
      rw [decide_eq_true units, comparedBytes, if_pos rfl, timingSafeEqual, if_pos different]
    have code := codes _ (checkedSteps_error ((not_outside_iff _ _).mpr inWindow) thrown)
    simp at code
  · intro ascii error failed
    rcases checkedSteps_eq_error failed with rfl | rfl | ⟨inside, thrown⟩
    · simp [replayRejected]
    · simp
    · have inWindow := (not_outside_iff _ _).mp inside
      by_cases units : utf16Length (String.ofList (supplied webhook)) = 64
      · have bytes := sizes.2.mpr (ascii inWindow units)
        rw [decide_eq_true units, comparedBytes_of_length (by omega)] at thrown
        cases thrown
      · rw [decide_eq_false units] at thrown
        cases thrown

end WebhookSecurity

theorem legitimate_iff :
    Legitimate hmac number rounded webhook ↔
      InWindow number rounded webhook ∧ supplied webhook = hexEncode (digest hmac webhook) := by
  rw [supplied, withoutPrefix_eq_hexEncode_iff]
  constructor
  · intro legitimate
    exact ⟨legitimate.inWindow, legitimate.signed⟩
  · rintro ⟨inWindow, signed⟩
    exact ⟨inWindow, signed⟩

/-- The first function has no errors but its own. -/
theorem Section20.verifySignedWebhook_codes {error : WebhookError}
    (failed : Section20.verifySignedWebhook hmac number rounded webhook = .error error) :
    error.code ∈ ["WEBHOOK_REPLAY_REJECTED", "WEBHOOK_SIGNATURE_INVALID"] := by
  rw [Section20.verifySignedWebhook_eq] at failed
  rcases checkedSteps_eq_error failed with rfl | rfl | ⟨_inside, thrown⟩
  · simp [replayRejected]
  · simp
  · cases thrown

end Acceptance

/-- The functions agree on a webhook exactly where its signature spells the
digest exactly or not at all, and is ASCII if it has the units of one. -/
theorem webhooksAgree_iff (hmac : (secret : String) → (data : List UInt8) → Digest)
    (number : String → Double) (rounded : ℚ → JsNumber) (webhook : SignedWebhook String) :
    WebhooksAgree hmac number rounded webhook ↔ SpelledExactly hmac number rounded webhook := by
  have spelledOut : ∀ bytes, supplied webhook = hexEncode bytes →
      SpellsBytes bytes (supplied webhook) := by
    intro bytes same
    rw [same]
    exact spellsBytes_hexEncode bytes
  constructor
  · intro agree
    constructor
    · intro finite inside spells
      have accepted : Section20.verifySignedWebhook hmac number rounded webhook = .ok () :=
        Section20.verifySignedWebhook_eq_ok_iff.mpr ⟨⟨finite, inside⟩, spells⟩
      obtain ⟨inWindow, isDigest⟩ := legitimate_iff.mp (agree.section20.mp accepted)
      exact ⟨inWindow.1, isDigest⟩
    · exact WebhookSecurity.verifySignedWebhook_codes_iff.mp fun error failed =>
        agree.codes error (.inr failed)
  · intro spelled
    constructor
    · rw [Section20.verifySignedWebhook_eq_ok_iff, legitimate_iff]
      constructor
      · rintro ⟨⟨finite, inside⟩, spells⟩
        obtain ⟨time, isDigest⟩ := spelled.spelling finite inside spells
        exact ⟨⟨time, inside⟩, isDigest⟩
      · rintro ⟨inWindow, isDigest⟩
        exact ⟨⟨isFiniteNumber_of_milliseconds inWindow.1, inWindow.2⟩, spelledOut _ isDigest⟩
    · rw [WebhookSecurity.verifySignedWebhook_eq_ok_iff, legitimate_iff]
    · rintro error (failed | failed)
      · exact Section20.verifySignedWebhook_codes failed
      · exact WebhookSecurity.verifySignedWebhook_codes_iff.mpr spelled.ascii error failed

/-- A webhook of this moment with a signature in capitals. -/
def capitalWebhook : SignedWebhook String where
  rawBody := "body"
  signature := String.ofList (List.replicate 64 'A')
  timestamp := "0"
  secret := "secret"
  toleranceSeconds := none
  nowMs := some (some (.finite 0))
  clock := 0

/-- The digest `aa…` in capitals is accepted by the function that decodes it. -/
theorem capitals_accepted :
    ¬ ∀ (hmac : (secret : String) → (data : List UInt8) → Digest) (number : String → Double)
        (rounded : ℚ → JsNumber) (webhook : SignedWebhook String),
          WebhooksAgree hmac number rounded webhook := by
  intro agreeOnAll
  let hmac : (secret : String) → (data : List UInt8) → Digest :=
    fun _secret _data => ⟨List.replicate 32 0xAA, rfl⟩
  have agree := agreeOnAll hmac (fun _text => some (.finite 0)) JsNumber.finite capitalWebhook
  have accepted : Section20.verifySignedWebhook hmac (fun _text => some (.finite 0))
      JsNumber.finite capitalWebhook = .ok () := by
    refine Section20.verifySignedWebhook_eq_ok_iff.mpr ⟨⟨rfl, by decide +kernel⟩, ?_⟩
    exact (hexDecode_eq_iff _ _).mp (by decide +kernel)
  have signed := (agree.section20.mp accepted).signed
  revert signed
  decide +kernel

end PlatformArchitecture.Security
