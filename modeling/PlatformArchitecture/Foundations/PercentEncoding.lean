import PlatformArchitecture.Foundations.HexTexts
import PlatformArchitecture.Foundations.TextEncodings

/-!
# Percent-encoding of a component

`encodeURIComponent` keeps letters, digits and `-_.!~*'()`, and writes every
other character as the bytes of its UTF-8 encoding, each as `%` and two
hexadecimal digits.  Reading the bytes back shows that two texts never have
the same encoding.  `decodeURIComponent` takes digits of either case and fails
where an escape is not complete or the bytes are not UTF-8.
-/

namespace PlatformArchitecture.Foundations

/-- The characters that stand for themselves. -/
def isUnescaped (c : Char) : Bool :=
  c.isAlphanum || c == '-' || c == '_' || c == '.' || c == '!' || c == '~' ||
    c == '*' || c == '\'' || c == '(' || c == ')'

def hexDigit (n : Nat) : Char :=
  if n < 10 then Char.ofNat (48 + n) else Char.ofNat (55 + n)

def percentEncodeByte (byte : UInt8) : List Char :=
  ['%', hexDigit (byte.toNat / 16), hexDigit (byte.toNat % 16)]

def encodeChar (c : Char) : List Char :=
  if isUnescaped c then [c] else (String.utf8EncodeChar c).flatMap percentEncodeByte

def encodeURIComponent (text : String) : String :=
  String.ofList (text.toList.flatMap encodeChar)

example : encodeURIComponent "acme/é ~" = "acme%2F%C3%A9%20~" := by decide

/-- The number a hexadecimal digit stands for. -/
def hexValue (c : Char) : Nat :=
  if c.toNat < 58 then c.toNat - 48 else c.toNat - 55

/-- The bytes an encoded text stands for. -/
def percentDecode : List Char → List UInt8
  | '%' :: high :: low :: rest =>
      UInt8.ofNat (hexValue high * 16 + hexValue low) :: percentDecode rest
  | c :: rest => UInt8.ofNat c.toNat :: percentDecode rest
  | [] => []

private theorem hexDigit_spec :
    ∀ n : Fin 16, hexValue (hexDigit n) = n ∧ isUnescaped (hexDigit n) = true := by
  decide

private theorem percentDecode_byte (byte : UInt8) (rest : List Char) :
    percentDecode (percentEncodeByte byte ++ rest) = byte :: percentDecode rest := by
  have bounded : byte.toNat < 256 := byte.toNat_lt
  have highSmall : byte.toNat / 16 < 16 := by omega
  have lowSmall : byte.toNat % 16 < 16 := by omega
  have digits : byte.toNat / 16 * 16 + byte.toNat % 16 = byte.toNat := by omega
  show UInt8.ofNat (hexValue (hexDigit (byte.toNat / 16)) * 16 +
      hexValue (hexDigit (byte.toNat % 16))) :: percentDecode rest = _
  rw [(hexDigit_spec ⟨_, highSmall⟩).1, (hexDigit_spec ⟨_, lowSmall⟩).1, digits, UInt8.ofNat_toNat]

private theorem percentDecode_bytes (bytes : List UInt8) (rest : List Char) :
    percentDecode (bytes.flatMap percentEncodeByte ++ rest) =
      bytes ++ percentDecode rest := by
  induction bytes with
  | nil => rfl
  | cons byte others inductionHypothesis =>
      rw [List.flatMap_cons, List.append_assoc, percentDecode_byte, inductionHypothesis,
        List.cons_append]

/-- A character that stands for itself is one byte and not the escape. -/
private theorem ascii_of_isUnescaped {c : Char} (kept : isUnescaped c = true) :
    c.toNat < 128 ∧ c ≠ '%' := by
  constructor
  · simp only [isUnescaped, Bool.or_eq_true, beq_iff_eq] at kept
    rcases kept with (((((((( alphanumeric | rfl) | rfl) | rfl) | rfl) | rfl) | rfl) | rfl) | rfl) |
      rfl
    · have inRange : ((decide ('A'.val ≤ c.val ∧ c.val ≤ 'Z'.val) ||
          ('a'.val ≤ c.val && c.val ≤ 'z'.val)) ||
            ('0'.val ≤ c.val && c.val ≤ '9'.val)) = true := alphanumeric
      simp only [Bool.or_eq_true, Bool.and_eq_true, decide_eq_true_eq,
        UInt32.le_iff_toNat_le] at inRange
      have sameNumber : c.toNat = c.val.toNat := rfl
      have upperEnd : 'Z'.val.toNat = 90 := rfl
      have lowerEnd : 'z'.val.toNat = 122 := rfl
      have digitEnd : '9'.val.toNat = 57 := rfl
      omega
    all_goals decide
  · rintro rfl
    revert kept
    decide

private theorem percentDecode_unescaped {c : Char} (notEscape : c ≠ '%') (rest : List Char) :
    percentDecode (c :: rest) = UInt8.ofNat c.toNat :: percentDecode rest := by
  rw [percentDecode]
  intro high low following isEscape
  exact absurd isEscape notEscape

private theorem percentDecode_encodeChar (c : Char) (rest : List Char) :
    percentDecode (encodeChar c ++ rest) = String.utf8EncodeChar c ++ percentDecode rest := by
  unfold encodeChar
  split
  · next kept =>
    obtain ⟨ascii, notEscape⟩ := ascii_of_isUnescaped kept
    rw [List.singleton_append, percentDecode_unescaped notEscape,
      utf8EncodeChar_of_ascii ascii, List.singleton_append]
  · exact percentDecode_bytes (String.utf8EncodeChar c) rest

private theorem percentDecode_encoded (chars : List Char) :
    percentDecode (chars.flatMap encodeChar) = chars.flatMap String.utf8EncodeChar := by
  induction chars with
  | nil => rfl
  | cons c others inductionHypothesis =>
      rw [List.flatMap_cons, percentDecode_encodeChar, inductionHypothesis, List.flatMap_cons]

/-- The bytes of an encoded text are the UTF-8 encoding of the text. -/
theorem percentDecode_encodeURIComponent (text : String) :
    percentDecode (encodeURIComponent text).toList =
      text.toList.flatMap String.utf8EncodeChar := by
  rw [encodeURIComponent, String.toList_ofList, percentDecode_encoded]

/-- Different texts have different encodings. -/
theorem encodeURIComponent_injective : Function.Injective encodeURIComponent := by
  intro text other same
  have sameBytes :
      text.toList.flatMap String.utf8EncodeChar =
        other.toList.flatMap String.utf8EncodeChar := by
    rw [← percentDecode_encodeURIComponent, same, percentDecode_encodeURIComponent]
  have sameUtf8 : text.toList.utf8Encode = other.toList.utf8Encode :=
    congrArg List.toByteArray sameBytes
  rw [← String.toByteArray_ofList, ← String.toByteArray_ofList, String.ofList_toList,
    String.ofList_toList] at sameUtf8
  exact String.toByteArray_inj.mp sameUtf8

/-- Every character of an encoding stands for itself or belongs to an escape. -/
private theorem mem_encodeChar {c encoded : Char} (member : encoded ∈ encodeChar c) :
    isUnescaped encoded = true ∨ encoded = '%' := by
  unfold encodeChar at member
  split at member
  · next kept =>
    obtain rfl := List.mem_singleton.mp member
    exact Or.inl kept
  · obtain ⟨byte, _isByte, escaped⟩ := List.mem_flatMap.mp member
    have bounded : byte.toNat < 256 := byte.toNat_lt
    rcases List.mem_cons.mp escaped with isEscape | isDigit
    · exact Or.inr isEscape
    · rcases List.mem_pair.mp isDigit with isHigh | isLow
      · rw [isHigh]
        exact Or.inl (hexDigit_spec ⟨byte.toNat / 16, by omega⟩).2
      · rw [isLow]
        exact Or.inl (hexDigit_spec ⟨byte.toNat % 16, by omega⟩).2

/-- An encoding is one path segment. -/
theorem slash_notMem_encodeURIComponent (text : String) :
    '/' ∉ (encodeURIComponent text).toList := by
  intro slash
  rw [encodeURIComponent, String.toList_ofList] at slash
  obtain ⟨c, _isChar, encoded⟩ := List.mem_flatMap.mp slash
  have impossible := mem_encodeChar encoded
  revert impossible
  decide

/-! ## Decoding -/

/-- The bytes of a component, a character outside of an escape in UTF-8. -/
def componentBytes : List Char → Option (List UInt8)
  | [] => some []
  | '%' :: high :: low :: rest =>
      match nibble high, nibble low with
      | some upper, some lower =>
          (componentBytes rest).map (UInt8.ofNat (upper * 16 + lower) :: ·)
      | _, _ => none
  | '%' :: _ => none
  | c :: rest => (componentBytes rest).map (String.utf8EncodeChar c ++ ·)

/-- `decodeURIComponent(text)`, with `none` for a `URIError`: just the bytes
that are UTF-8 are those of the text that is read from them. -/
def decodeURIComponent (text : String) : Option String :=
  (componentBytes text.toList).bind fun bytes =>
    if utf8Bytes (decodeUtf8 bytes).toList = bytes then some (decodeUtf8 bytes) else none

example : decodeURIComponent "%c3%A9%20~" = some "é ~" := by decide +kernel

example : decodeURIComponent "%E9" = none ∧ decodeURIComponent "%2" = none := by decide +kernel

private theorem nibble_hexDigit : ∀ n : Fin 16, nibble (hexDigit n) = some n.val := by
  decide

private theorem componentBytes_byte (byte : UInt8) (rest : List Char) :
    componentBytes (percentEncodeByte byte ++ rest) = (componentBytes rest).map (byte :: ·) := by
  have bounded : byte.toNat < 256 := byte.toNat_lt
  have isHigh := nibble_hexDigit ⟨byte.toNat / 16, by omega⟩
  have isLow := nibble_hexDigit ⟨byte.toNat % 16, by omega⟩
  have digits : byte.toNat / 16 * 16 + byte.toNat % 16 = byte.toNat := by omega
  show componentBytes
    ('%' :: hexDigit (byte.toNat / 16) :: hexDigit (byte.toNat % 16) :: rest) = _
  rw [componentBytes, isHigh, isLow]
  simp only [digits, UInt8.ofNat_toNat]

private theorem componentBytes_bytes (bytes : List UInt8) (rest : List Char) :
    componentBytes (bytes.flatMap percentEncodeByte ++ rest) =
      (componentBytes rest).map (bytes ++ ·) := by
  induction bytes with
  | nil => simp
  | cons byte others inductionHypothesis =>
      rw [List.flatMap_cons, List.append_assoc, componentBytes_byte, inductionHypothesis,
        Option.map_map]
      rfl

private theorem componentBytes_encodeChar (c : Char) (rest : List Char) :
    componentBytes (encodeChar c ++ rest) =
      (componentBytes rest).map (String.utf8EncodeChar c ++ ·) := by
  unfold encodeChar
  split
  · next kept =>
    obtain ⟨_ascii, notEscape⟩ := ascii_of_isUnescaped kept
    rw [List.singleton_append, componentBytes]
    · intro high low following isEscape
      exact absurd isEscape notEscape
    · intro isEscape
      exact absurd isEscape notEscape
  · exact componentBytes_bytes (String.utf8EncodeChar c) rest

private theorem componentBytes_encoded (chars : List Char) :
    componentBytes (chars.flatMap encodeChar) = some (utf8Bytes chars) := by
  induction chars with
  | nil => rfl
  | cons c others inductionHypothesis =>
      rw [List.flatMap_cons, componentBytes_encodeChar, inductionHypothesis]
      rfl

/-- What has been encoded is read back. -/
theorem decodeURIComponent_encodeURIComponent (text : String) :
    decodeURIComponent (encodeURIComponent text) = some text := by
  rw [decodeURIComponent, encodeURIComponent, String.toList_ofList, componentBytes_encoded,
    Option.bind_some, decodeUtf8_utf8Bytes, if_pos rfl]

end PlatformArchitecture.Foundations
