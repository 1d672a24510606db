import Mathlib.Data.List.Basic
import Mathlib.Data.List.TakeWhile

/-!
# Units and bytes of a text

The units the language counts and compares, and the two encodings
of `Buffer`: `utf8`, whose decoder puts the replacement character where the
bytes are not UTF-8, and `base64url`, whose decoder skips what is not in the
alphabet and stops at the first `=`.  Each decoder gives back what its encoder
has written.
-/

namespace PlatformArchitecture.Foundations

/-- The code units of a text: a character outside the basic plane is a pair of
surrogates. -/
def utf16Units (text : String) : List Nat :=
  text.toList.flatMap fun c =>
    if c.toNat < 0x10000 then [c.toNat]
    else [0xD800 + (c.toNat - 0x10000) / 0x400, 0xDC00 + (c.toNat - 0x10000) % 0x400]

/-- `text.length`. -/
def utf16Length (text : String) : Nat :=
  (utf16Units text).length

section Separators

variable {target : Char}

/-- `chars.lastIndexOf(target)`, with `none` for -1. -/
def lastIndexOf (target : Char) : List Char → Option Nat
  | [] => none
  | c :: rest =>
      match lastIndexOf target rest with
      | some index => some (index + 1)
      | none => if c = target then some 0 else none

theorem lastIndexOf_eq_none_iff {chars : List Char} :
    lastIndexOf target chars = none ↔ target ∉ chars := by
  induction chars with
  | nil => simp [lastIndexOf]
  | cons c rest inductionHypothesis =>
      rw [List.mem_cons, not_or, ← inductionHypothesis, lastIndexOf]
      cases lastIndexOf target rest with
      | some index => simp
      | none => simp [eq_comm]

theorem lastIndexOf_append_cons (front : List Char) {back : List Char}
    (absent : target ∉ back) :
    lastIndexOf target (front ++ target :: back) = some front.length := by
  induction front with
  | nil =>
      rw [List.nil_append, lastIndexOf, lastIndexOf_eq_none_iff.mpr absent]
      exact if_pos rfl
  | cons c rest inductionHypothesis =>
      rw [List.cons_append, lastIndexOf, inductionHypothesis]
      rfl

/-- The last separator divides a text, and there is none behind it. -/
theorem split_of_lastIndexOf {chars : List Char} {index : Nat}
    (found : lastIndexOf target chars = some index) :
    chars = chars.take index ++ target :: chars.drop (index + 1) ∧
      target ∉ chars.drop (index + 1) := by
  induction chars generalizing index with
  | nil => cases found
  | cons c rest inductionHypothesis =>
      rw [lastIndexOf] at found
      cases later : lastIndexOf target rest with
      | some before =>
          rw [later] at found
          obtain rfl := Option.some.inj found
          obtain ⟨divided, absent⟩ := inductionHypothesis later
          exact ⟨congrArg (List.cons c) divided, absent⟩
      | none =>
          rw [later] at found
          by_cases isTarget : c = target
          · have isFirst : 0 = index := Option.some.inj ((if_pos isTarget).symm.trans found)
            subst isFirst
            exact ⟨congrArg (· :: rest) isTarget, lastIndexOf_eq_none_iff.mp later⟩
          · rw [if_neg isTarget] at found
            cases found

end Separators

section Utf8

/-- `Buffer.from(text, 'utf8')`. -/
def utf8Bytes (chars : List Char) : List UInt8 :=
  chars.flatMap String.utf8EncodeChar

def isContinuation (byte : UInt8) : Bool :=
  decide (0x80 ≤ byte ∧ byte ≤ 0xBF)

/-- Whether the second byte may follow the first at the start of a sequence of
more than two bytes. -/
def mayFollow (first second : UInt8) : Bool :=
  if first = 0xE0 then decide (0xA0 ≤ second ∧ second ≤ 0xBF)
  else if first = 0xED then decide (0x80 ≤ second ∧ second ≤ 0x9F)
  else if first = 0xF0 then decide (0x90 ≤ second ∧ second ≤ 0xBF)
  else if first = 0xF4 then decide (0x80 ≤ second ∧ second ≤ 0x8F)
  else decide (0xE1 ≤ first ∧ first ≤ 0xF3) && isContinuation second

/-- The number of bytes one replacement character stands for: the longest
start of a sequence, or one byte. -/
def brokenLength : List UInt8 → Nat
  | first :: second :: rest =>
      if mayFollow first second then
        match rest with
        | third :: _ => if decide (0xF0 ≤ first) && isContinuation third then 3 else 2
        | [] => 2
      else 1
  | _ => 1

/-- `bytes.toString('utf8')`, reading at most `fuel` characters. -/
def utf8Text : (fuel : Nat) → List UInt8 → List Char
  | 0, _ => []
  | _, [] => []
  | fuel + 1, bytes =>
      match bytes.toByteArray.utf8DecodeChar? 0 with
      | some c => c :: utf8Text fuel (bytes.drop c.utf8Size)
      | none => '\uFFFD' :: utf8Text fuel (bytes.drop (brokenLength bytes))

/-- `bytes.toString('utf8')`: every character takes a byte at least. -/
def decodeUtf8 (bytes : List UInt8) : String :=
  String.ofList (utf8Text bytes.length bytes)

example : decodeUtf8 [0x61, 0xE2, 0x82, 0x41, 0xFF] = "a\uFFFDA\uFFFD" := by decide +kernel

private theorem utf8Text_encodeChar (fuel : Nat) (c : Char) (rest : List UInt8) :
    utf8Text (fuel + 1) (String.utf8EncodeChar c ++ rest) = c :: utf8Text fuel rest := by
  have decoded :
      (String.utf8EncodeChar c ++ rest).toByteArray.utf8DecodeChar? 0 = some c := by
    rw [List.toByteArray_append]
    exact ByteArray.utf8DecodeChar?_utf8EncodeChar_append
  have size : (String.utf8EncodeChar c).length = c.utf8Size := String.length_utf8EncodeChar c
  have positive : 0 < c.utf8Size := c.utf8Size_pos
  cases bytes : String.utf8EncodeChar c ++ rest with
  | nil =>
      obtain ⟨isEmpty, _⟩ := List.append_eq_nil_iff.mp bytes
      rw [isEmpty, List.length_nil] at size
      omega
  | cons first others =>
      have dropped : (first :: others).drop c.utf8Size = rest := by
        rw [← bytes, ← size, List.drop_left]
      rw [bytes] at decoded
      rw [utf8Text, decoded]
      · exact congrArg (fun left => c :: utf8Text fuel left) dropped
      · exact List.cons_ne_nil first others

/-- What `utf8` writes it reads. -/
theorem decodeUtf8_utf8Bytes (text : String) : decodeUtf8 (utf8Bytes text.toList) = text := by
  have reads : ∀ (chars : List Char) (fuel : Nat), (utf8Bytes chars).length ≤ fuel →
      utf8Text fuel (utf8Bytes chars) = chars := by
    intro chars
    induction chars with
    | nil =>
        intro fuel _enough
        cases fuel with
        | zero | succ _ => rfl
    | cons c rest inductionHypothesis =>
        intro fuel enough
        have size : (String.utf8EncodeChar c).length = c.utf8Size := String.length_utf8EncodeChar c
        have positive : 0 < c.utf8Size := c.utf8Size_pos
        rw [utf8Bytes, List.flatMap_cons, List.length_append] at enough
        cases fuel with
        | zero => omega
        | succ fuel =>
            rw [utf8Bytes, List.flatMap_cons, utf8Text_encodeChar]
            exact congrArg (List.cons c)
              (inductionHypothesis fuel (by unfold utf8Bytes; omega))
  rw [decodeUtf8, reads text.toList _ (Nat.le_refl _), String.ofList_toList]

theorem utf8EncodeChar_of_ascii {c : Char} (ascii : c.toNat < 128) :
    String.utf8EncodeChar c = [UInt8.ofNat c.toNat] := by
  have small : c.val.toNat ≤ 0x7f := Nat.le_of_lt_succ ascii
  unfold String.utf8EncodeChar
  exact if_pos small

/-- The bytes of a text of ASCII characters are read back however they are cut
into pieces. -/
theorem decodeUtf8_pieces {pieces : List (List UInt8)} {text : List Char}
    (ascii : ∀ c ∈ text, c.toNat < 128) (cut : pieces.flatten = utf8Bytes text) :
    (pieces.map fun piece => (decodeUtf8 piece).toList).flatten = text := by
  induction pieces generalizing text with
  | nil =>
      cases text with
      | nil => rfl
      | cons c rest =>
          rw [utf8Bytes, List.flatMap_cons,
            utf8EncodeChar_of_ascii (ascii c List.mem_cons_self)] at cut
          cases cut
  | cons piece rest inductionHypothesis =>
      have single : ∀ chars : List Char, (∀ c ∈ chars, c.toNat < 128) →
          utf8Bytes chars = chars.map fun c => UInt8.ofNat c.toNat := by
        intro chars each
        induction chars with
        | nil => rfl
        | cons c others ofRest =>
            have later := ofRest fun other member => each other (List.mem_cons_of_mem _ member)
            rw [utf8Bytes, List.flatMap_cons,
              utf8EncodeChar_of_ascii (each c List.mem_cons_self)]
            exact congrArg (List.cons _) later
      rw [single text ascii, List.flatten_cons] at cut
      obtain ⟨front, back, rfl, frontBytes, backBytes⟩ := List.map_eq_append_iff.mp cut.symm
      have frontAscii := fun c member => ascii c (List.mem_append_left _ member)
      have backAscii := fun c member => ascii c (List.mem_append_right _ member)
      have isFront : decodeUtf8 piece = String.ofList front := by
        have encoded := decodeUtf8_utf8Bytes (String.ofList front)
        rwa [String.toList_ofList, single front frontAscii, frontBytes] at encoded
      rw [List.map_cons, List.flatten_cons, isFront, String.toList_ofList,
        inductionHypothesis backAscii (backBytes.symm.trans (single back backAscii).symm)]

/-- Different texts have different bytes. -/
theorem utf8Bytes_injective {text other : String}
    (same : utf8Bytes text.toList = utf8Bytes other.toList) : text = other := by
  rw [← decodeUtf8_utf8Bytes text, same, decodeUtf8_utf8Bytes]

end Utf8

section Base64url

/-- The character of six bits. -/
def base64urlDigit (value : Nat) : Char :=
  if value < 26 then Char.ofNat (65 + value)
  else if value < 52 then Char.ofNat (71 + value)
  else if value < 62 then Char.ofNat (value - 4)
  else if value = 62 then '-'
  else '_'

/-- The six bits a character stands for, in this alphabet or the standard
one. -/
def base64urlValue (c : Char) : Option Nat :=
  if decide ('A' ≤ c) && decide (c ≤ 'Z') then some (c.toNat - 65)
  else if decide ('a' ≤ c) && decide (c ≤ 'z') then some (c.toNat - 71)
  else if decide ('0' ≤ c) && decide (c ≤ '9') then some (c.toNat + 4)
  else if c == '-' || c == '+' then some 62
  else if c == '_' || c == '/' then some 63
  else none

/-- Bytes in groups of six bits, the last one filled up with zeros. -/
def sextets : List UInt8 → List Nat
  | first :: second :: third :: rest =>
      first.toNat / 4 :: (first.toNat % 4 * 16 + second.toNat / 16) ::
        (second.toNat % 16 * 4 + third.toNat / 64) :: third.toNat % 64 :: sextets rest
  | [first, second] =>
      [first.toNat / 4, first.toNat % 4 * 16 + second.toNat / 16, second.toNat % 16 * 4]
  | [first] => [first.toNat / 4, first.toNat % 4 * 16]
  | [] => []

/-- The whole bytes among groups of six bits. -/
def octets : List Nat → List UInt8
  | first :: second :: third :: fourth :: rest =>
      UInt8.ofNat (first * 4 + second / 16) :: UInt8.ofNat (second % 16 * 16 + third / 4) ::
        UInt8.ofNat (third % 4 * 64 + fourth) :: octets rest
  | [first, second, third] =>
      [UInt8.ofNat (first * 4 + second / 16), UInt8.ofNat (second % 16 * 16 + third / 4)]
  | [first, second] => [UInt8.ofNat (first * 4 + second / 16)]
  | _ => []

/-- `bytes.toString('base64url')`. -/
def base64urlEncode (bytes : List UInt8) : List Char :=
  (sextets bytes).map base64urlDigit

/-- `Buffer.from(chars, 'base64url')`. -/
def base64urlDecode (chars : List Char) : List UInt8 :=
  octets ((chars.takeWhile fun c => c != '=').filterMap base64urlValue)

example : base64urlEncode [0xFB, 0xEF, 0x61, 0x62] = "--9hYg".toList := by decide

example : base64urlDecode "+/. 9hYg=zz".toList = [0xFB, 0xFF, 0x61, 0x62] := by decide

private theorem firstOctet (first second : UInt8) :
    UInt8.ofNat (first.toNat / 4 * 4 + (first.toNat % 4 * 16 + second.toNat / 16) / 16) =
      first := by
  have small : second.toNat < 256 := second.toNat_lt
  have joined :
      first.toNat / 4 * 4 + (first.toNat % 4 * 16 + second.toNat / 16) / 16 = first.toNat := by
    omega
  rw [joined, UInt8.ofNat_toNat]

private theorem secondOctet (first second third : UInt8) :
    UInt8.ofNat ((first.toNat % 4 * 16 + second.toNat / 16) % 16 * 16 +
      (second.toNat % 16 * 4 + third.toNat / 64) / 4) = second := by
  have small : second.toNat < 256 := second.toNat_lt
  have thirdSmall : third.toNat < 256 := third.toNat_lt
  have joined : (first.toNat % 4 * 16 + second.toNat / 16) % 16 * 16 +
      (second.toNat % 16 * 4 + third.toNat / 64) / 4 = second.toNat := by
    omega
  rw [joined, UInt8.ofNat_toNat]

private theorem thirdOctet (second third : UInt8) :
    UInt8.ofNat ((second.toNat % 16 * 4 + third.toNat / 64) % 4 * 64 + third.toNat % 64) =
      third := by
  have small : third.toNat < 256 := third.toNat_lt
  have joined :
      (second.toNat % 16 * 4 + third.toNat / 64) % 4 * 64 + third.toNat % 64 = third.toNat := by
    omega
  rw [joined, UInt8.ofNat_toNat]

private theorem octets_sextets (bytes : List UInt8) : octets (sextets bytes) = bytes := by
  induction bytes using sextets.induct with
  | case1 first second third rest inductionHypothesis =>
      rw [sextets, octets, inductionHypothesis, firstOctet, secondOctet, thirdOctet]
  | case2 first second =>
      have filled : (second.toNat % 16 * 4) / 4 = (second.toNat % 16 * 4 + 0 / 64) / 4 := by omega
      rw [sextets, octets, firstOctet, filled]
      exact congrArg (fun last => [first, last]) (secondOctet first second 0)
  | case3 first =>
      have filled : (first.toNat % 4 * 16) / 16 = (first.toNat % 4 * 16 + 0 / 16) / 16 := by omega
      rw [sextets, octets, filled]
      exact congrArg (fun last => [last]) (firstOctet first 0)
  | case4 => rfl

private theorem sextets_lt (bytes : List UInt8) : ∀ value ∈ sextets bytes, value < 64 := by
  induction bytes using sextets.induct with
  | case1 first second third rest inductionHypothesis =>
      have firstSmall := first.toNat_lt
      have secondSmall := second.toNat_lt
      have thirdSmall := third.toNat_lt
      simp only [sextets, List.forall_mem_cons]
      exact ⟨by omega, by omega, by omega, by omega, inductionHypothesis⟩
  | case2 first second =>
      have firstSmall := first.toNat_lt
      have secondSmall := second.toNat_lt
      simp only [sextets, List.forall_mem_cons]
      exact ⟨by omega, by omega, by omega, List.forall_mem_nil _⟩
  | case3 first =>
      have firstSmall := first.toNat_lt
      simp only [sextets, List.forall_mem_cons]
      exact ⟨by omega, by omega, List.forall_mem_nil _⟩
  | case4 => simp [sextets]

private theorem base64urlDigit_spec :
    ∀ value : Fin 64, base64urlValue (base64urlDigit value) = some value.val ∧
      base64urlDigit value ≠ '=' ∧ base64urlDigit value ≠ '.' := by
  decide

/-- What `base64url` writes it reads. -/
theorem base64urlDecode_encode (bytes : List UInt8) :
    base64urlDecode (base64urlEncode bytes) = bytes := by
  have noPadding : ∀ c ∈ base64urlEncode bytes, (c != '=') = true := by
    intro c member
    obtain ⟨value, isSextet, rfl⟩ := List.mem_map.mp member
    exact bne_iff_ne.mpr (base64urlDigit_spec ⟨value, sextets_lt bytes value isSextet⟩).2.1
  have values : (base64urlEncode bytes).filterMap base64urlValue = sextets bytes := by
    have readBack : ∀ value ∈ sextets bytes,
        (base64urlValue ∘ base64urlDigit) value = some value := by
      intro value isSextet
      exact (base64urlDigit_spec ⟨value, sextets_lt bytes value isSextet⟩).1
    rw [base64urlEncode, List.filterMap_map, List.filterMap_congr readBack, List.filterMap_some]
  rw [base64urlDecode, List.takeWhile_eq_self_iff.mpr noPadding, values, octets_sextets]

/-- The alphabet has no dot. -/
theorem dot_notMem_base64urlEncode (bytes : List UInt8) : '.' ∉ base64urlEncode bytes := by
  intro member
  obtain ⟨value, isSextet, isDot⟩ := List.mem_map.mp member
  exact (base64urlDigit_spec ⟨value, sextets_lt bytes value isSextet⟩).2.2 isDot

end Base64url

end PlatformArchitecture.Foundations
