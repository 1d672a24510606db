import PlatformArchitecture.Foundations.Checks
import PlatformArchitecture.Foundations.StreamCiphers
import PlatformArchitecture.Foundations.TextEncodings

/-!
# Encrypted fields

`FieldEncryptionService` stores a text as a record of base64url texts.  AES-256
in Galois counter mode is a parameter: a keystream that depends on key and
initialization vector, and a tag over the ciphertext and the additional data.
-/

namespace PlatformArchitecture.Security

open PlatformArchitecture.Foundations

namespace FieldEncryptionService

structure EncryptedField where
  alg : String
  keyId : String
  iv : String
  tag : String
  ciphertext : String
  version : Nat

inductive FieldError where
  | keyProvider (message : String)
  | coded (code message : String)
  | unauthentic
  deriving DecidableEq

/-- `getDataKey` of the provider. -/
abbrev DataKeyProvider := String → Except FieldError (List UInt8)

/-- `randomBytes(12)`. -/
abbrev RandomIv := { bytes : List UInt8 // bytes.length = 12 }

def base64url (bytes : List UInt8) : String :=
  String.ofList (base64urlEncode bytes)

def fromBase64url (text : String) : List UInt8 :=
  base64urlDecode text.toList

def dataKey (keys : DataKeyProvider) (keyId : String) : Except FieldError (List UInt8) := do
  let key ← keys keyId
  throwIf (key.length ≠ 32)
    (FieldError.coded "INVALID_FIELD_ENCRYPTION_KEY" "Field encryption key must be 256-bit")
  return key

/-- The additional data: an empty text is falsy. -/
def aadBytes (aad : Option String) : List UInt8 :=
  match aad.filter (· ≠ "") with
  | none => []
  | some aad => utf8Bytes aad.toList

/-- The lengths of a tag that `setAuthTag` takes in this mode. -/
def authTagLengths : List Nat :=
  [4, 8, 12, 13, 14, 15, 16]

section Service

variable (cipher : StreamCipher) (keys : DataKeyProvider)

def encrypt (iv : RandomIv) (keyId plaintext : String) (aad : Option String) :
    Except FieldError EncryptedField := do
  let key ← dataKey keys keyId
  let ciphertext := cipher.encipher key iv.val (utf8Bytes plaintext.toList)
  return {
    alg := "aes-256-gcm"
    keyId
    iv := base64url iv.val
    tag := base64url (cipher.mac key iv.val (aadBytes aad) ciphertext)
    ciphertext := base64url ciphertext
    version := 1 }

def decrypt (value : EncryptedField) (aad : Option String) : Except FieldError String := do
  let key ← dataKey keys value.keyId
  let iv := fromBase64url value.iv
  throwIf (iv = []) (FieldError.coded "ERR_CRYPTO_INVALID_IV" "Invalid initialization vector")
  let tag := fromBase64url value.tag
  throwIf (tag.length ∉ authTagLengths)
    (FieldError.coded "ERR_CRYPTO_INVALID_AUTH_TAG" "Invalid authentication tag length")
  let ciphertext := fromBase64url value.ciphertext
  throwIf (¬ cipher.Authentic key iv (aadBytes aad) ciphertext tag) FieldError.unauthentic
  return decodeUtf8 (cipher.encipher key iv ciphertext)

/-- Which fields decrypt, and to what. -/
theorem decrypt_eq_ok_iff {value : EncryptedField} {aad : Option String} {text : String} :
    decrypt cipher keys value aad = .ok text ↔
      ∃ key, dataKey keys value.keyId = .ok key ∧ fromBase64url value.iv ≠ [] ∧
        (fromBase64url value.tag).length ∈ authTagLengths ∧
        cipher.Authentic key (fromBase64url value.iv) (aadBytes aad)
          (fromBase64url value.ciphertext) (fromBase64url value.tag) ∧
        decodeUtf8 (cipher.encipher key (fromBase64url value.iv)
          (fromBase64url value.ciphertext)) = text := by
  unfold decrypt
  simp only [bind_eq_ok, throwIf_eq_ok, not_not]
  constructor
  · rintro ⟨key, isKey, _, hasIv, _, tagLength, _, authentic, returned⟩
    cases returned
    exact ⟨key, isKey, hasIv, tagLength, authentic, rfl⟩
  · rintro ⟨key, isKey, hasIv, tagLength, authentic, rfl⟩
    exact ⟨key, isKey, ⟨⟩, hasIv, ⟨⟩, tagLength, ⟨⟩, authentic, rfl⟩

theorem fromBase64url_base64url (bytes : List UInt8) : fromBase64url (base64url bytes) = bytes := by
  rw [fromBase64url, base64url, String.toList_ofList, base64urlDecode_encode]

/-- The record of a text under a key. -/
def fieldUnder (key : List UInt8) (iv : RandomIv) (keyId plaintext : String)
    (aad : Option String) : EncryptedField :=
  let ciphertext := cipher.encipher key iv.val (utf8Bytes plaintext.toList)
  ⟨"aes-256-gcm", keyId, base64url iv.val,
    base64url (cipher.mac key iv.val (aadBytes aad) ciphertext), base64url ciphertext, 1⟩

theorem encrypt_eq {key : List UInt8} {keyId : String} (isKey : dataKey keys keyId = .ok key)
    (iv : RandomIv) (plaintext : String) (aad : Option String) :
    encrypt cipher keys iv keyId plaintext aad =
      .ok (fieldUnder cipher key iv keyId plaintext aad) := by
  unfold encrypt
  rw [isKey]
  rfl

theorem decrypt_fieldUnder_iff {key : List UInt8} {keyId : String}
    (isKey : dataKey keys keyId = .ok key) (iv : RandomIv) (plaintext : String)
    (aad : Option String) (alg : String) (version : Nat) (tag : String) (other : Option String)
    (text : String) :
    decrypt cipher keys
        { fieldUnder cipher key iv keyId plaintext aad with alg, version, tag } other = .ok text ↔
      text = plaintext ∧ (fromBase64url tag).length ∈ authTagLengths ∧
        cipher.Authentic key iv.val (aadBytes other)
          (fromBase64url (fieldUnder cipher key iv keyId plaintext aad).ciphertext)
          (fromBase64url tag) := by
  have hasIv : iv.val ≠ [] := by
    intro empty
    have length := iv.property
    rw [empty] at length
    cases length
  have deciphered : decodeUtf8 (cipher.encipher key iv.val
      (cipher.encipher key iv.val (utf8Bytes plaintext.toList))) = plaintext := by
    rw [cipher.encipher_encipher, decodeUtf8_utf8Bytes]
  rw [decrypt_eq_ok_iff]
  simp only [fieldUnder, fromBase64url_base64url]
  constructor
  · rintro ⟨used, isUsed, -, tagLength, authentic, rfl⟩
    rw [isKey] at isUsed
    cases isUsed
    exact ⟨deciphered, tagLength, authentic⟩
  · rintro ⟨rfl, tagLength, authentic⟩
    exact ⟨key, isKey, hasIv, tagLength, authentic, deciphered⟩

end Service

/-- One byte over every position, and a tag that begins with the data and the
ciphertext. -/
def sampleCipher : StreamCipher where
  keystream _key _iv _position := 0x5A
  mac _key _iv aad ciphertext := (aad ++ ciphertext ++ List.replicate 16 0).take 16
  length_mac _key _iv aad ciphertext := by
    simp only [List.length_take, List.length_append, List.length_replicate]
    omega

def sampleKeys : DataKeyProvider :=
  fun _keyId => .ok (List.replicate 32 7)

end FieldEncryptionService

end PlatformArchitecture.Security
