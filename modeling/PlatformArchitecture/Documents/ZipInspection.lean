import Mathlib.Data.Rat.Defs
import Mathlib.Algebra.Order.Ring.Rat
import PlatformArchitecture.Foundations.Checks

/-!
# Inspection of uploaded archives

`inspectZipArchive` looks at every byte offset for the signature of a central
directory record.  A record it finds is counted and skipped as a whole; at any
other offset it moves on by one byte.  `inspectAndApprove` compares the totals
with the upload policy before an archive leaves quarantine.
-/

namespace PlatformArchitecture.Documents

open PlatformArchitecture.Foundations

abbrev Bytes :=
  List UInt8

/-- The byte at an offset that has been checked to lie inside. -/
def byteAt (bytes : Bytes) (offset : Nat) : Nat :=
  (bytes.getD offset 0).toNat

def u16 (bytes : Bytes) (offset : Nat) : Except String Nat :=
  if offset + 2 > bytes.length then
    .error "MALFORMED_ZIP"
  else
    .ok (byteAt bytes offset ||| (byteAt bytes (offset + 1) <<< 8))

def u32 (bytes : Bytes) (offset : Nat) : Except String Nat :=
  if offset + 4 > bytes.length then
    .error "MALFORMED_ZIP"
  else
    .ok (byteAt bytes offset ||| (byteAt bytes (offset + 1) <<< 8) |||
      (byteAt bytes (offset + 2) <<< 16) ||| (byteAt bytes (offset + 3) <<< 24))

def centralSignature : Nat :=
  0x02014b50

def endSignature : Nat :=
  0x06054b50

/-- The fields of a central directory record that matter here. -/
structure CentralRecord where
  compressed : Nat
  uncompressed : Nat
  filenameLength : Nat
  extraLength : Nat
  commentLength : Nat
  deriving DecidableEq

def CentralRecord.recordLength (record : CentralRecord) : Nat :=
  46 + record.filenameLength + record.extraLength + record.commentLength

def CentralRecord.expansionRatio (record : CentralRecord) : ℚ :=
  record.uncompressed / max 1 record.compressed

/-- The record at an offset that carries the signature, with every check the
loop makes on it. -/
def centralRecord (bytes : Bytes) (offset : Nat) : Except String CentralRecord := do
  throwIf (offset + 46 > bytes.length) "MALFORMED_ZIP"
  let compressed ← u32 bytes (offset + 20)
  let uncompressed ← u32 bytes (offset + 24)
  throwIf (compressed = 0xffffffff ∨ uncompressed = 0xffffffff) "ZIP64_ARCHIVE_REJECTED"
  let filenameLength ← u16 bytes (offset + 28)
  let extraLength ← u16 bytes (offset + 30)
  let commentLength ← u16 bytes (offset + 32)
  let record : CentralRecord :=
    { compressed, uncompressed, filenameLength, extraLength, commentLength }
  throwIf (offset + record.recordLength > bytes.length) "MALFORMED_ZIP"
  return record

structure ZipInspection where
  entries : Nat
  totalCompressedBytes : Nat
  totalUncompressedBytes : Nat
  maxEntryExpansionRatio : ℚ
  deriving DecidableEq

def ZipInspection.empty : ZipInspection :=
  { entries := 0
    totalCompressedBytes := 0
    totalUncompressedBytes := 0
    maxEntryExpansionRatio := 0 }

/-- Count one record. -/
def ZipInspection.add (seen : ZipInspection) (record : CentralRecord) : ZipInspection :=
  { entries := seen.entries + 1
    totalCompressedBytes := seen.totalCompressedBytes + record.compressed
    totalUncompressedBytes := seen.totalUncompressedBytes + record.uncompressed
    maxEntryExpansionRatio := max seen.maxEntryExpansionRatio record.expansionRatio }

/-- The loop of `inspectZipArchive`. -/
def scan (bytes : Bytes) (offset : Nat) (seen : ZipInspection) (sawCentral : Bool) :
    Except String (ZipInspection × Bool) :=
  if offset + 4 ≤ bytes.length then
    match u32 bytes offset with
    | .error error => .error error
    | .ok signature =>
        if signature = centralSignature then
          match centralRecord bytes offset with
          | .error error => .error error
          | .ok record =>
              scan bytes (offset + record.recordLength) (seen.add record) true
        else
          scan bytes (offset + 1) seen sawCentral
  else
    .ok (seen, sawCentral)
termination_by bytes.length - offset
decreasing_by
  · simp only [CentralRecord.recordLength]
    omega
  · omega

/-- The end record of an archive without entries is its last 22 bytes. -/
def isEmptyZip (bytes : Bytes) : Except String Bool :=
  if bytes.length ≥ 22 then do
    let signature ← u32 bytes (bytes.length - 22)
    return decide (signature = endSignature)
  else
    return false

def inspectZipArchive (bytes : Bytes) : Except String ZipInspection := do
  let (seen, sawCentral) ← scan bytes 0 .empty false
  if sawCentral then
    return seen
  else
    let empty ← isEmptyZip bytes
    throwIf (!empty) "MALFORMED_ZIP"
    return seen

/-- The part of the upload policy that bounds archives. -/
structure UploadPolicy where
  maxBytes : ℚ
  maxArchiveExpansionRatio : ℚ
  maxArchiveEntries : Option ℚ
  maxArchiveUncompressedBytes : Option ℚ

/-- The part of an upload's description that its archive is checked against. -/
structure UploadDescriptor where
  mimeType : String
  archiveUncompressedBytes : Option ℚ

def archiveMimeTypes : List String :=
  ["application/zip",
    "application/vnd.openxmlformats-officedocument.wordprocessingml.document"]

namespace UploadPolicy

def maxEntries (policy : UploadPolicy) : ℚ :=
  policy.maxArchiveEntries.getD 10000

def maxUncompressed (policy : UploadPolicy) : ℚ :=
  policy.maxArchiveUncompressedBytes.getD
    (min (250 * 1024 * 1024) (policy.maxBytes * policy.maxArchiveExpansionRatio))

/-- The condition of `ARCHIVE_BOMB_REJECTED`. -/
def rejects (policy : UploadPolicy) (archive : ZipInspection) : Prop :=
  archive.entries > policy.maxEntries ∨
    archive.totalUncompressedBytes > policy.maxUncompressed ∨
    (archive.totalUncompressedBytes / max 1 archive.totalCompressedBytes : ℚ) >
      policy.maxArchiveExpansionRatio ∨
    archive.maxEntryExpansionRatio > policy.maxArchiveExpansionRatio

instance (policy : UploadPolicy) (archive : ZipInspection) :
    Decidable (policy.rejects archive) :=
  inferInstanceAs (Decidable (_ ∨ _ ∨ _ ∨ _))

end UploadPolicy

/-- The archive block of `inspectAndApprove`. -/
def checkArchive (policy : UploadPolicy) (d : UploadDescriptor) (bytes : Bytes) :
    Except String Unit :=
  if d.mimeType ∈ archiveMimeTypes then do
    let archive ← inspectZipArchive bytes
    throwIf (policy.rejects archive) "ARCHIVE_BOMB_REJECTED"
    match d.archiveUncompressedBytes with
    | none => pure ()
    | some announced =>
        throwIf (announced ≠ archive.totalUncompressedBytes)
          "ARCHIVE_SIZE_METADATA_MISMATCH"
  else
    pure ()

end PlatformArchitecture.Documents
