import Mathlib.Data.List.Basic

/-!
# Stream ciphers with a tag

A cipher that adds a keystream to a text and authenticates the result: the
counter modes with a tag of sixteen bytes.  A reader may be content with the
first bytes of the tag.
-/

namespace PlatformArchitecture.Foundations

/-- The bytes combined with a keystream, from a position on. -/
def combine (keystream : Nat → UInt8) : Nat → List UInt8 → List UInt8
  | _, [] => []
  | position, byte :: rest => (byte ^^^ keystream position) :: combine keystream (position + 1) rest

/-- Combining twice gives the bytes back. -/
theorem combine_combine (keystream : Nat → UInt8) (position : Nat) (bytes : List UInt8) :
    combine keystream position (combine keystream position bytes) = bytes := by
  induction bytes generalizing position with
  | nil => rfl
  | cons byte rest inductionHypothesis =>
      rw [combine, combine, inductionHypothesis, UInt8.xor_assoc, UInt8.xor_self, UInt8.xor_zero]

structure StreamCipher where
  keystream : (key iv : List UInt8) → Nat → UInt8
  mac : (key iv aad ciphertext : List UInt8) → List UInt8
  length_mac : ∀ key iv aad ciphertext, (mac key iv aad ciphertext).length = 16

namespace StreamCipher

variable (cipher : StreamCipher)

def encipher (key iv bytes : List UInt8) : List UInt8 :=
  combine (cipher.keystream key iv) 0 bytes

theorem encipher_encipher (key iv bytes : List UInt8) :
    cipher.encipher key iv (cipher.encipher key iv bytes) = bytes :=
  combine_combine _ 0 bytes

/-- A tag is accepted that begins the computed one. -/
def Authentic (key iv aad ciphertext tag : List UInt8) : Prop :=
  tag = (cipher.mac key iv aad ciphertext).take tag.length

instance (key iv aad ciphertext tag : List UInt8) :
    Decidable (cipher.Authentic key iv aad ciphertext tag) :=
  inferInstanceAs (Decidable (_ = _))

theorem authentic_take (key iv aad ciphertext : List UInt8) {count : Nat} (within : count ≤ 16) :
    cipher.Authentic key iv aad ciphertext ((cipher.mac key iv aad ciphertext).take count) := by
  have length : ((cipher.mac key iv aad ciphertext).take count).length = count := by
    rw [List.length_take, cipher.length_mac, Nat.min_eq_left within]
  rw [Authentic, length]

end StreamCipher

end PlatformArchitecture.Foundations
