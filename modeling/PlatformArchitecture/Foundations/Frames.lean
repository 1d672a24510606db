import Mathlib.Data.Nat.Basic
import Mathlib.Data.List.TakeDrop
import Mathlib.Data.UInt
import Mathlib.Tactic.Ring

/-!
# Frames with a length in front

A stream is cut into chunks, each chunk is sent behind its length in four bytes
with the most significant first, and a length of zero ends the stream.  The
reader needs nothing but the bytes to know where it ends.
-/

namespace PlatformArchitecture.Foundations

/-! ## Four bytes -/

/-- `writeUInt32BE`. -/
def uint32BE (value : Nat) : List UInt8 :=
  [UInt8.ofNat (value / 2 ^ 24), UInt8.ofNat (value / 2 ^ 16), UInt8.ofNat (value / 2 ^ 8),
    UInt8.ofNat value]

def ofUint32BE (first second third fourth : UInt8) : Nat :=
  first.toNat * 2 ^ 24 + second.toNat * 2 ^ 16 + third.toNat * 2 ^ 8 + fourth.toNat

theorem ofUint32BE_uint32BE {value : Nat} (small : value < 2 ^ 32) :
    ofUint32BE (UInt8.ofNat (value / 2 ^ 24)) (UInt8.ofNat (value / 2 ^ 16))
      (UInt8.ofNat (value / 2 ^ 8)) (UInt8.ofNat value) = value := by
  simp only [ofUint32BE, UInt8.toNat_ofNat']
  omega

/-! ## Chunks -/

/-- The chunks of at most `size` bytes from an offset on. -/
def chunksFrom (size : Nat) (bytes : List UInt8) : (fuel offset : Nat) → List (List UInt8)
  | 0, _ => []
  | fuel + 1, offset =>
      if offset < bytes.length then
        (bytes.drop offset).take (min bytes.length (offset + size) - offset) ::
          chunksFrom size bytes fuel (offset + size)
      else []

section Chunks

variable {size : Nat} {bytes : List UInt8}

/-- With a turn for every byte that is left, no byte is lost or sent twice. -/
theorem flatten_chunksFrom (positive : 0 < size) {fuel offset : Nat}
    (enough : bytes.length ≤ fuel + offset) :
    (chunksFrom size bytes fuel offset).flatten = bytes.drop offset := by
  induction fuel generalizing offset with
  | zero =>
      have done : bytes.length ≤ offset := by omega
      simp [chunksFrom, List.drop_of_length_le done]
  | succ fuel inductionHypothesis =>
      unfold chunksFrom
      by_cases inside : offset < bytes.length
      · rw [if_pos inside, List.flatten_cons, inductionHypothesis (by omega)]
        by_cases last : bytes.length ≤ offset + size
        · rw [Nat.min_eq_left last, List.drop_of_length_le last, List.append_nil]
          exact List.take_of_length_le (by simp)
        · have middle : min bytes.length (offset + size) - offset = size := by omega
          rw [middle, ← List.drop_drop, List.take_append_drop]
      · rw [if_neg inside, List.drop_of_length_le (by omega)]
        rfl

theorem length_of_mem_chunksFrom (positive : 0 < size) {fuel offset : Nat} {chunk : List UInt8}
    (member : chunk ∈ chunksFrom size bytes fuel offset) :
    0 < chunk.length ∧ chunk.length ≤ size := by
  induction fuel generalizing offset with
  | zero => cases member
  | succ fuel inductionHypothesis =>
      unfold chunksFrom at member
      by_cases inside : offset < bytes.length
      · rw [if_pos inside] at member
        rcases List.mem_cons.mp member with rfl | later
        · simp only [List.length_take, List.length_drop]
          omega
        · exact inductionHypothesis later
      · rw [if_neg inside] at member
        cases member

end Chunks

/-! ## Frames -/

def frame (payload : List UInt8) : List UInt8 :=
  uint32BE payload.length ++ payload

/-- Every chunk in its frame, and the length that ends the stream. -/
def frames (chunks : List (List UInt8)) : List UInt8 :=
  chunks.flatMap frame ++ uint32BE 0

/-- The chunks of a stream and what comes after it; `none` when it breaks off. -/
def readFrames : (fuel : Nat) → List UInt8 → Option (List (List UInt8) × List UInt8)
  | fuel + 1, first :: second :: third :: fourth :: rest =>
      let length := ofUint32BE first second third fourth
      if length = 0 then some ([], rest)
      else if rest.length < length then none
      else
        (readFrames fuel (rest.drop length)).map fun (chunks, after) =>
          (rest.take length :: chunks, after)
  | _, _ => none

/-- The reader finds the chunks that were sent, and stops where they end. -/
theorem readFrames_frames {chunks : List (List UInt8)}
    (sized : ∀ chunk ∈ chunks, 0 < chunk.length ∧ chunk.length < 2 ^ 32) (after : List UInt8)
    {fuel : Nat} (enough : chunks.length < fuel) :
    readFrames fuel (frames chunks ++ after) = some (chunks, after) := by
  induction chunks generalizing fuel with
  | nil =>
      obtain ⟨fuel, rfl⟩ := Nat.exists_eq_succ_of_ne_zero (by omega : fuel ≠ 0)
      simp [frames, uint32BE, readFrames, ofUint32BE]
  | cons chunk rest inductionHypothesis =>
      obtain ⟨fuel, rfl⟩ := Nat.exists_eq_succ_of_ne_zero (by omega : fuel ≠ 0)
      obtain ⟨positive, small⟩ := sized chunk List.mem_cons_self
      have restSized := fun other member => sized other (List.mem_cons_of_mem _ member)
      have split : frames (chunk :: rest) ++ after =
          uint32BE chunk.length ++ (chunk ++ (frames rest ++ after)) := by
        simp [frames, frame]
      rw [split]
      simp only [uint32BE, List.cons_append, List.nil_append, readFrames,
        ofUint32BE_uint32BE small]
      have nonzero : chunk.length ≠ 0 := by omega
      have whole : ¬ (chunk ++ (frames rest ++ after)).length < chunk.length := by simp
      rw [if_neg nonzero, if_neg whole, List.drop_left, List.take_left,
        inductionHypothesis restSized (by simpa using enough)]
      rfl

theorem readFrames_short {part : List UInt8} (short : part.length < 4) (fuel : Nat) :
    readFrames fuel part = none := by
  cases fuel with
  | zero => rfl
  | succ fuel =>
      match part, short with
      | [], _ | [_], _ | [_, _], _ | [_, _, _], _ => rfl

/-- A stream that is cut short anywhere is told from a whole one. -/
theorem readFrames_truncated {chunks : List (List UInt8)}
    (sized : ∀ chunk ∈ chunks, 0 < chunk.length ∧ chunk.length < 2 ^ 32) {part : List UInt8}
    (isPart : part <+: frames chunks) (short : part ≠ frames chunks) (fuel : Nat) :
    readFrames fuel part = none := by
  induction chunks generalizing part fuel with
  | nil =>
      apply readFrames_short
      have longest : (frames []).length = 4 := rfl
      have bounded := isPart.length_le
      by_contra long
      exact short (isPart.eq_of_length (by omega))
  | cons chunk rest inductionHypothesis =>
      obtain ⟨positive, small⟩ := sized chunk List.mem_cons_self
      have restSized := fun other member => sized other (List.mem_cons_of_mem _ member)
      have split : frames (chunk :: rest) =
          uint32BE chunk.length ++ (chunk ++ frames rest) := by
        simp [frames, frame]
      by_cases header : part.length < 4
      · exact readFrames_short header fuel
      · cases fuel with
        | zero => rfl
        | succ fuel =>
            obtain ⟨suffix, whole⟩ := isPart
            match part, header with
            | [], short | [_], short | [_, _], short | [_, _, _], short =>
                exact absurd (by simp) short
            | first :: second :: third :: fourth :: body, _ =>
                rw [split] at whole short
                simp only [uint32BE, List.cons_append, List.nil_append, List.cons.injEq]
                  at whole
                obtain ⟨rfl, rfl, rfl, rfl, bodyWhole⟩ := whole
                simp only [readFrames, ofUint32BE_uint32BE small]
                rw [if_neg (by omega : chunk.length ≠ 0)]
                by_cases cut : body.length < chunk.length
                · rw [if_pos cut]
                · rw [if_neg cut]
                  have chunkPart : chunk <+: body :=
                    List.prefix_of_prefix_length_le ⟨_, rfl⟩ ⟨suffix, bodyWhole⟩ (by omega)
                  obtain ⟨tail, rfl⟩ := chunkPart
                  rw [List.append_assoc, List.append_cancel_left_eq] at bodyWhole
                  have tailShort : tail ≠ frames rest := by
                    intro same
                    exact short (by simp [uint32BE, same])
                  rw [List.drop_left,
                    inductionHypothesis restSized ⟨suffix, bodyWhole⟩ tailShort fuel]
                  rfl

end PlatformArchitecture.Foundations
