import Mathlib.Data.List.Basic

/-!
# Bytes as hexadecimal digits

The encoder of `Buffer` writes two lower-case digits for every byte.  Its
decoder reads digits of either case and stops without an error at the first two
characters that are not both digits, so it takes many texts for the same bytes.
-/

namespace PlatformArchitecture.Foundations

def lowerHexDigits : List Char :=
  "0123456789abcdef".toList

def lowerHexDigit (value : Nat) : Char :=
  lowerHexDigits.getD value '0'

/-- `bytes.toString('hex')`. -/
def hexEncode (bytes : List UInt8) : List Char :=
  bytes.flatMap fun byte => [lowerHexDigit (byte.toNat / 16), lowerHexDigit (byte.toNat % 16)]

/-- The value of a digit of either case. -/
def nibble (c : Char) : Option Nat :=
  if c.toLower ∈ lowerHexDigits then some (lowerHexDigits.idxOf c.toLower) else none

/-- `Buffer.from(chars, 'hex')`. -/
def hexDecode : List Char → List UInt8
  | high :: low :: rest =>
      match nibble high, nibble low with
      | some upper, some lower => UInt8.ofNat (upper * 16 + lower) :: hexDecode rest
      | _, _ => []
  | _ => []

example : hexDecode "FB0g61".toList = [0xFB] := by decide

/-- The text begins with two digits. -/
def beginsWithByte : List Char → Bool
  | high :: low :: _ => (nibble high).isSome && (nibble low).isSome
  | _ => false

/-- The text is the digits of the bytes in either case, and what follows does
not begin with two more. -/
def SpellsBytes (bytes : List UInt8) (chars : List Char) : Prop :=
  ∃ front rest, chars = front ++ rest ∧ front.map Char.toLower = hexEncode bytes ∧
    beginsWithByte rest = false

private theorem lowerHexDigit_spec :
    ∀ value : Fin 16, lowerHexDigit value ∈ lowerHexDigits ∧
      lowerHexDigits.idxOf (lowerHexDigit value) = value ∧
      (lowerHexDigit value).toLower = lowerHexDigit value ∧ lowerHexDigit value ≠ 's' ∧
        (lowerHexDigit value).toNat < 128 := by
  decide

theorem nibble_eq_some_iff {c : Char} {value : Nat} :
    nibble c = some value ↔ value < 16 ∧ c.toLower = lowerHexDigit value := by
  unfold nibble
  constructor
  · intro isValue
    split at isValue
    · next member =>
      have index := Option.some.inj isValue
      have bounded : lowerHexDigits.idxOf c.toLower < lowerHexDigits.length :=
        List.idxOf_lt_length_of_mem member
      have found : lowerHexDigits[lowerHexDigits.idxOf c.toLower]? = some c.toLower := by
        rw [List.getElem?_eq_getElem bounded, List.getElem_idxOf]
      rw [index] at bounded found
      refine ⟨bounded, ?_⟩
      rw [lowerHexDigit, List.getD_eq_getElem?_getD, found, Option.getD_some]
    · cases isValue
  · rintro ⟨bounded, isDigit⟩
    obtain ⟨member, index, _⟩ := lowerHexDigit_spec ⟨value, bounded⟩
    rw [isDigit, if_pos member]
    exact congrArg some index

theorem hexEncode_cons (byte : UInt8) (bytes : List UInt8) :
    hexEncode (byte :: bytes) =
      lowerHexDigit (byte.toNat / 16) :: lowerHexDigit (byte.toNat % 16) :: hexEncode bytes :=
  rfl

theorem length_hexEncode (bytes : List UInt8) : (hexEncode bytes).length = 2 * bytes.length := by
  induction bytes with
  | nil => rfl
  | cons byte bytes inductionHypothesis =>
      rw [hexEncode_cons, List.length_cons, List.length_cons, inductionHypothesis,
        List.length_cons]
      omega

/-- The encoder writes digits in lower case, which are ASCII. -/
theorem mem_hexEncode {c : Char} {bytes : List UInt8} (member : c ∈ hexEncode bytes) :
    c.toLower = c ∧ c ≠ 's' ∧ c.toNat < 128 := by
  obtain ⟨byte, _isByte, isDigit⟩ := List.mem_flatMap.mp member
  have bounded := byte.toNat_lt
  have highSpec := lowerHexDigit_spec ⟨byte.toNat / 16, by omega⟩
  have lowSpec := lowerHexDigit_spec ⟨byte.toNat % 16, by omega⟩
  simp only [List.mem_cons, List.not_mem_nil, or_false] at isDigit
  rcases isDigit with rfl | rfl
  · exact highSpec.2.2
  · exact lowSpec.2.2

private theorem hexDecode_eq_nil_iff (chars : List Char) :
    hexDecode chars = [] ↔ beginsWithByte chars = false := by
  cases chars with
  | nil => simp [hexDecode, beginsWithByte]
  | cons high others =>
      cases others with
      | nil => simp [hexDecode, beginsWithByte]
      | cons low rest =>
          cases isHigh : nibble high with
          | none => simp [hexDecode, beginsWithByte, isHigh]
          | some upper =>
              cases isLow : nibble low with
              | none => simp [hexDecode, beginsWithByte, isHigh, isLow]
              | some lower => simp [hexDecode, beginsWithByte, isHigh, isLow]

private theorem hexDecode_eq_cons_iff (byte : UInt8) (bytes : List UInt8) (chars : List Char) :
    hexDecode chars = byte :: bytes ↔
      ∃ high low others, chars = high :: low :: others ∧ nibble high = some (byte.toNat / 16) ∧
        nibble low = some (byte.toNat % 16) ∧ hexDecode others = bytes := by
  have bounded := byte.toNat_lt
  constructor
  · intro decoded
    match chars with
    | [] => cases decoded
    | [_] => cases decoded
    | high :: low :: others =>
        rw [hexDecode] at decoded
        cases isHigh : nibble high with
        | none =>
            rw [isHigh] at decoded
            cases decoded
        | some upper =>
            cases isLow : nibble low with
            | none =>
                rw [isHigh, isLow] at decoded
                cases decoded
            | some lower =>
                rw [isHigh, isLow] at decoded
                obtain ⟨isByte, areBytes⟩ := List.cons.inj decoded
                have upperSmall := (nibble_eq_some_iff.mp isHigh).1
                have lowerSmall := (nibble_eq_some_iff.mp isLow).1
                have value : byte.toNat = upper * 16 + lower := by
                  rw [← isByte, UInt8.toNat_ofNat']
                  omega
                have upperEq : upper = byte.toNat / 16 := by omega
                have lowerEq : lower = byte.toNat % 16 := by omega
                exact ⟨high, low, others, rfl, upperEq ▸ isHigh, lowerEq ▸ isLow, areBytes⟩
  · rintro ⟨high, low, others, rfl, isHigh, isLow, areBytes⟩
    have value : byte.toNat / 16 * 16 + byte.toNat % 16 = byte.toNat := by omega
    rw [hexDecode, isHigh, isLow]
    dsimp only
    rw [areBytes, value, UInt8.ofNat_toNat]

/-- The decoder takes for some bytes just the texts that spell them. -/
theorem hexDecode_eq_iff (bytes : List UInt8) (chars : List Char) :
    hexDecode chars = bytes ↔ SpellsBytes bytes chars := by
  induction bytes generalizing chars with
  | nil =>
      rw [hexDecode_eq_nil_iff]
      constructor
      · intro noByte
        exact ⟨[], chars, rfl, rfl, noByte⟩
      · rintro ⟨front, rest, rfl, noDigits, noByte⟩
        obtain rfl : front = [] := List.map_eq_nil_iff.mp noDigits
        exact noByte
  | cons byte bytes inductionHypothesis =>
      have bounded := byte.toNat_lt
      rw [hexDecode_eq_cons_iff]
      constructor
      · rintro ⟨high, low, others, rfl, isHigh, isLow, areBytes⟩
        obtain ⟨_upperSmall, highDigit⟩ := nibble_eq_some_iff.mp isHigh
        obtain ⟨_lowerSmall, lowDigit⟩ := nibble_eq_some_iff.mp isLow
        obtain ⟨front, rest, rfl, digits, noByte⟩ := (inductionHypothesis others).mp areBytes
        refine ⟨high :: low :: front, rest, rfl, ?_, noByte⟩
        rw [List.map_cons, List.map_cons, digits, highDigit, lowDigit, hexEncode_cons]
      · rintro ⟨front, rest, rfl, digits, noByte⟩
        rw [hexEncode_cons] at digits
        obtain ⟨high, others, rfl, highDigit, digits⟩ := List.map_eq_cons_iff.mp digits
        obtain ⟨low, front, rfl, lowDigit, digits⟩ := List.map_eq_cons_iff.mp digits
        exact ⟨high, low, front ++ rest, rfl, nibble_eq_some_iff.mpr ⟨by omega, highDigit⟩,
          nibble_eq_some_iff.mpr ⟨by omega, lowDigit⟩,
          (inductionHypothesis (front ++ rest)).mpr ⟨front, rest, rfl, digits, noByte⟩⟩

theorem spellsBytes_hexEncode (bytes : List UInt8) : SpellsBytes bytes (hexEncode bytes) := by
  refine ⟨hexEncode bytes, [], (List.append_nil _).symm, ?_, rfl⟩
  calc (hexEncode bytes).map Char.toLower
      _ = (hexEncode bytes).map id := by
          refine List.map_congr_left ?_
          intro c member
          exact (mem_hexEncode member).1
      _ = hexEncode bytes := List.map_id _

theorem hexDecode_hexEncode (bytes : List UInt8) : hexDecode (hexEncode bytes) = bytes :=
  (hexDecode_eq_iff bytes _).mpr (spellsBytes_hexEncode bytes)

end PlatformArchitecture.Foundations
