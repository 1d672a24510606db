import Mathlib.Algebra.Order.BigOperators.Group.List
import Mathlib.Algebra.Order.Field.Rat
import Mathlib.Tactic.Linarith
import PlatformArchitecture.Documents.ZipInspection

/-!
# The real directory of an archive

A reader of ZIP archives follows the end record to the central directory and
reads its entries one after another.  The inspection bounds what such a reader
finds unless the scan takes a record that begins before the directory and ends
inside it: the bytes such a record covers are skipped, real entries included.
-/

namespace PlatformArchitecture.Documents

open PlatformArchitecture.Foundations

/-! ## Reading an archive by its end record -/

/-- The central directory record at an offset. -/
def readRecord (bytes : Bytes) (offset : Nat) : Option CentralRecord := do
  let signature ← (u32 bytes offset).toOption
  guard (signature = centralSignature)
  let compressed ← (u32 bytes (offset + 20)).toOption
  let uncompressed ← (u32 bytes (offset + 24)).toOption
  let filenameLength ← (u16 bytes (offset + 28)).toOption
  let extraLength ← (u16 bytes (offset + 30)).toOption
  let commentLength ← (u16 bytes (offset + 32)).toOption
  let record : CentralRecord :=
    { compressed, uncompressed, filenameLength, extraLength, commentLength }
  guard (offset + record.recordLength ≤ bytes.length)
  return record

/-- A number of records, each at the end of the one before. -/
def readEntries (bytes : Bytes) : Nat → Nat → Option (List CentralRecord)
  | _, 0 => some []
  | offset, count + 1 => do
      let record ← readRecord bytes offset
      let rest ← readEntries bytes (offset + record.recordLength) count
      return record :: rest

/-- The directory an end record points to: where it starts and its entries. -/
def readDirectory (bytes : Bytes) (endRecord : Nat) :
    Option (Nat × List CentralRecord) := do
  let signature ← (u32 bytes endRecord).toOption
  guard (signature = endSignature)
  let count ← (u16 bytes (endRecord + 10)).toOption
  let start ← (u32 bytes (endRecord + 16)).toOption
  let entries ← readEntries bytes start count
  return (start, entries)

/-! ## The records the scan takes -/

/-- The records the scan takes from an offset on, with their offsets. -/
def takenRecords (bytes : Bytes) (offset : Nat) : List (Nat × CentralRecord) :=
  if offset + 4 ≤ bytes.length then
    if u32 bytes offset = .ok centralSignature then
      match centralRecord bytes offset with
      | .error _ => []
      | .ok record =>
          (offset, record) :: takenRecords bytes (offset + record.recordLength)
    else
      takenRecords bytes (offset + 1)
  else
    []
termination_by bytes.length - offset
decreasing_by
  · simp only [CentralRecord.recordLength]
    omega
  · omega

/-- No record the scan takes begins before an offset and ends after it. -/
def NoneStraddles (bytes : Bytes) (start : Nat) : Prop :=
  ∀ taken ∈ takenRecords bytes 0,
    taken.1 < start → taken.1 + taken.2.recordLength ≤ start

instance (bytes : Bytes) (start : Nat) : Decidable (NoneStraddles bytes start) :=
  inferInstanceAs (Decidable (∀ taken ∈ takenRecords bytes 0, _ → _))

theorem u32_of_fits {bytes : Bytes} {offset : Nat} (fits : offset + 4 ≤ bytes.length) :
    ∃ value, u32 bytes offset = .ok value := by
  unfold u32
  rw [if_neg (by omega)]
  exact ⟨_, rfl⟩

theorem takenRecords_of_signature {bytes : Bytes} {offset : Nat}
    {record : CentralRecord} (fits : offset + 4 ≤ bytes.length)
    (signature : u32 bytes offset = .ok centralSignature)
    (parsed : centralRecord bytes offset = .ok record) :
    takenRecords bytes offset =
      (offset, record) :: takenRecords bytes (offset + record.recordLength) := by
  rw [takenRecords, if_pos fits, if_pos signature, parsed]

theorem takenRecords_of_other {bytes : Bytes} {offset : Nat}
    (fits : offset + 4 ≤ bytes.length)
    (other : u32 bytes offset ≠ .ok centralSignature) :
    takenRecords bytes offset = takenRecords bytes (offset + 1) := by
  rw [takenRecords, if_pos fits, if_neg other]

theorem takenRecords_of_end {bytes : Bytes} {offset : Nat}
    (tooShort : ¬ offset + 4 ≤ bytes.length) : takenRecords bytes offset = [] := by
  rw [takenRecords, if_neg tooShort]

/-- What one turn of the loop does when the scan as a whole succeeds. -/
theorem scan_ok_cases {bytes : Bytes} {offset : Nat} {seen : ZipInspection}
    {sawCentral : Bool} {outcome : ZipInspection × Bool}
    (succeeds : scan bytes offset seen sawCentral = .ok outcome) :
    (¬ offset + 4 ≤ bytes.length ∧ outcome = (seen, sawCentral)) ∨
      (∃ record, offset + 4 ≤ bytes.length ∧
        u32 bytes offset = .ok centralSignature ∧
        centralRecord bytes offset = .ok record ∧
        scan bytes (offset + record.recordLength) (seen.add record) true =
          .ok outcome) ∨
      (offset + 4 ≤ bytes.length ∧ u32 bytes offset ≠ .ok centralSignature ∧
        scan bytes (offset + 1) seen sawCentral = .ok outcome) := by
  rw [scan] at succeeds
  split at succeeds
  · next fits =>
    obtain ⟨signature, read⟩ := u32_of_fits fits
    rw [read] at succeeds
    simp only at succeeds
    split at succeeds
    · next central =>
      subst signature
      cases parsed : centralRecord bytes offset with
      | error error =>
          rw [parsed] at succeeds
          cases succeeds
      | ok record =>
          rw [parsed] at succeeds
          exact Or.inr (Or.inl ⟨record, fits, read, rfl, succeeds⟩)
    · next other =>
      refine Or.inr (Or.inr ⟨fits, ?_, succeeds⟩)
      rw [read]
      simpa using other
  · next tooShort =>
    cases succeeds
    exact Or.inl ⟨tooShort, rfl⟩

/-- A successful scan returns the totals of the records it took. -/
theorem totals_of_scan {bytes : Bytes} {offset : Nat} {seen : ZipInspection}
    {sawCentral : Bool} {outcome : ZipInspection × Bool}
    (succeeds : scan bytes offset seen sawCentral = .ok outcome) :
    outcome.1 =
      ((takenRecords bytes offset).map Prod.snd).foldl ZipInspection.add seen := by
  rcases scan_ok_cases succeeds with
    ⟨tooShort, rfl⟩ | ⟨record, fits, signature, parsed, rest⟩ | ⟨fits, other, rest⟩
  · rw [takenRecords_of_end tooShort]
    rfl
  · rw [takenRecords_of_signature fits signature parsed, List.map_cons, List.foldl_cons]
    exact totals_of_scan rest
  · rw [takenRecords_of_other fits other]
    exact totals_of_scan rest
termination_by bytes.length - offset
decreasing_by
  · simp only [CentralRecord.recordLength]
    omega
  · omega

/-- A scan that succeeds and takes no record across an offset comes to it. -/
theorem scan_reaches {bytes : Bytes} {start offset : Nat} {seen : ZipInspection}
    {sawCentral : Bool} {outcome : ZipInspection × Bool}
    (succeeds : scan bytes offset seen sawCentral = .ok outcome)
    (before : offset ≤ start) (fits : start + 4 ≤ bytes.length)
    (clear : ∀ taken ∈ takenRecords bytes offset,
      taken.1 < start → taken.1 + taken.2.recordLength ≤ start) :
    ∃ passed startSeen startSaw,
      takenRecords bytes offset = passed ++ takenRecords bytes start ∧
        scan bytes start startSeen startSaw = .ok outcome := by
  by_cases arrived : offset = start
  · subst offset
    exact ⟨[], seen, sawCentral, rfl, succeeds⟩
  · have earlier : offset < start := by
      omega
    rcases scan_ok_cases succeeds with
      ⟨tooShort, _⟩ | ⟨record, recordFits, signature, parsed, rest⟩ |
        ⟨offsetFits, other, rest⟩
    · omega
    · rw [takenRecords_of_signature recordFits signature parsed] at clear ⊢
      have ends : offset + record.recordLength ≤ start :=
        clear (offset, record) List.mem_cons_self earlier
      obtain ⟨passed, startSeen, startSaw, split, arrives⟩ :=
        scan_reaches rest ends fits fun taken member =>
          clear taken (List.mem_cons_of_mem _ member)
      exact ⟨(offset, record) :: passed, startSeen, startSaw, by rw [split]; rfl,
        arrives⟩
    · rw [takenRecords_of_other offsetFits other] at clear ⊢
      exact scan_reaches rest earlier fits clear
termination_by bytes.length - offset
decreasing_by
  · simp only [CentralRecord.recordLength]
    omega
  · omega

/-- The scan moves forward only, and past every record it takes. -/
theorem takenRecords_ordered (bytes : Bytes) (offset : Nat) :
    (∀ taken ∈ takenRecords bytes offset, offset ≤ taken.1) ∧
      (takenRecords bytes offset).Pairwise fun earlier later =>
        earlier.1 + earlier.2.recordLength ≤ later.1 := by
  by_cases fits : offset + 4 ≤ bytes.length
  · by_cases signature : u32 bytes offset = .ok centralSignature
    · cases parsed : centralRecord bytes offset with
      | error error =>
          rw [takenRecords, if_pos fits, if_pos signature, parsed]
          simp
      | ok record =>
          obtain ⟨after, ordered⟩ :=
            takenRecords_ordered bytes (offset + record.recordLength)
          rw [takenRecords_of_signature fits signature parsed]
          refine ⟨?_, List.pairwise_cons.mpr ⟨after, ordered⟩⟩
          intro taken member
          rcases List.mem_cons.mp member with rfl | later
          · exact Nat.le_refl _
          · exact Nat.le_trans (Nat.le_add_right _ _) (after taken later)
    · obtain ⟨after, ordered⟩ := takenRecords_ordered bytes (offset + 1)
      rw [takenRecords_of_other fits signature]
      exact ⟨fun taken member => Nat.le_of_succ_le (after taken member), ordered⟩
  · rw [takenRecords_of_end fits]
    simp
termination_by bytes.length - offset
decreasing_by
  · simp only [CentralRecord.recordLength]
    omega
  · omega

/-- An entry inside a record that the scan takes is never counted. -/
theorem not_taken_of_straddled {bytes : Bytes} {start : Nat}
    {straddling : Nat × CentralRecord} (member : straddling ∈ takenRecords bytes 0)
    (before : straddling.1 < start)
    (across : start < straddling.1 + straddling.2.recordLength) :
    ∀ taken ∈ takenRecords bytes 0, taken.1 ≠ start := by
  rintro taken takenMember rfl
  obtain ⟨passed, rest, split⟩ := List.append_of_mem member
  have ordered := (takenRecords_ordered bytes 0).2
  rw [split] at ordered takenMember
  obtain ⟨_, after, between⟩ := List.pairwise_append.mp ordered
  rcases List.mem_append.mp takenMember with earlier | later
  · have passes := between taken earlier straddling List.mem_cons_self
    omega
  · rcases List.mem_cons.mp later with rfl | following
    · omega
    · have passes := (List.pairwise_cons.mp after).1 taken following
      omega

/-- The scan and the reader agree on the fields of a record. -/
theorem readRecord_of_centralRecord {bytes : Bytes} {offset : Nat}
    {record : CentralRecord} (signature : u32 bytes offset = .ok centralSignature)
    (parsed : centralRecord bytes offset = .ok record) :
    readRecord bytes offset = some record := by
  simp only [centralRecord, bind_eq_ok, throwIf_eq_ok, pure, Except.pure,
    Except.ok.injEq] at parsed
  obtain ⟨_, _, compressed, readCompressed, uncompressed, readUncompressed, _, _,
    filenameLength, readFilename, extraLength, readExtra, commentLength, readComment,
    _, inside, rfl⟩ := parsed
  simp [readRecord, signature, readCompressed, readUncompressed, readFilename,
    readExtra, readComment, Except.toOption, guard, Nat.not_lt.mp inside]

theorem signature_of_readRecord {bytes : Bytes} {offset : Nat} {record : CentralRecord}
    (read : readRecord bytes offset = some record) :
    offset + 4 ≤ bytes.length ∧ u32 bytes offset = .ok centralSignature := by
  unfold readRecord at read
  cases signature : u32 bytes offset with
  | error error =>
      rw [signature] at read
      cases read
  | ok value =>
      rw [signature] at read
      by_cases central : value = centralSignature
      · subst value
        refine ⟨?_, rfl⟩
        unfold u32 at signature
        split at signature
        · cases signature
        · omega
      · simp [Except.toOption, central, guard] at read

/-- Where the reader finds entries a successful scan takes them. -/
theorem takenRecords_of_readEntries {bytes : Bytes} {count offset : Nat}
    {entries : List CentralRecord} {seen : ZipInspection} {sawCentral : Bool}
    {outcome : ZipInspection × Bool}
    (read : readEntries bytes offset count = some entries)
    (succeeds : scan bytes offset seen sawCentral = .ok outcome) :
    ∃ rest, (takenRecords bytes offset).map Prod.snd = entries ++ rest := by
  induction count generalizing offset entries seen sawCentral with
  | zero =>
      cases read
      exact ⟨_, rfl⟩
  | succ count inductionHypothesis =>
      simp only [readEntries, bind, Option.bind_eq_some_iff, pure,
        Option.some.injEq] at read
      obtain ⟨record, readFirst, others, readOthers, rfl⟩ := read
      obtain ⟨fits, signature⟩ := signature_of_readRecord readFirst
      rcases scan_ok_cases succeeds with
        ⟨tooShort, _⟩ | ⟨taken, _, _, parsed, rest⟩ | ⟨_, other, _⟩
      · exact absurd fits tooShort
      · have same : taken = record := by
          have readTaken := readRecord_of_centralRecord signature parsed
          rw [readFirst] at readTaken
          exact (Option.some.inj readTaken).symm
        subst taken
        obtain ⟨more, split⟩ := inductionHypothesis readOthers rest
        rw [takenRecords_of_signature fits signature parsed, List.map_cons, split]
        exact ⟨more, rfl⟩
      · exact absurd signature other

/-! ## Totals -/

/-- The totals of a list of records. -/
def totals (records : List CentralRecord) : ZipInspection :=
  records.foldl ZipInspection.add .empty

private theorem foldl_add (records : List CentralRecord) :
    ∀ seen : ZipInspection,
      (records.foldl ZipInspection.add seen).entries = seen.entries + records.length ∧
        (records.foldl ZipInspection.add seen).totalCompressedBytes =
          seen.totalCompressedBytes + (records.map CentralRecord.compressed).sum ∧
        (records.foldl ZipInspection.add seen).totalUncompressedBytes =
          seen.totalUncompressedBytes + (records.map CentralRecord.uncompressed).sum ∧
        seen.maxEntryExpansionRatio ≤
          (records.foldl ZipInspection.add seen).maxEntryExpansionRatio ∧
        ∀ record ∈ records, record.expansionRatio ≤
          (records.foldl ZipInspection.add seen).maxEntryExpansionRatio := by
  induction records with
  | nil =>
      intro seen
      simp
  | cons record rest inductionHypothesis =>
      intro seen
      obtain ⟨entries, compressed, uncompressed, grows, bounds⟩ :=
        inductionHypothesis (seen.add record)
      rw [List.foldl_cons]
      refine ⟨?_, ?_, ?_, ?_, ?_⟩
      · rw [entries]
        simp only [ZipInspection.add, List.length_cons]
        omega
      · rw [compressed]
        simp only [ZipInspection.add, List.map_cons, List.sum_cons]
        omega
      · rw [uncompressed]
        simp only [ZipInspection.add, List.map_cons, List.sum_cons]
        omega
      · exact le_trans (le_max_left _ _) grows
      · intro other member
        rcases List.mem_cons.mp member with rfl | later
        · exact le_trans (le_max_right _ _) grows
        · exact bounds other later

theorem inspection_eq_totals {bytes : Bytes} {archive : ZipInspection}
    (accepted : inspectZipArchive bytes = .ok archive) :
    ∃ sawCentral, scan bytes 0 .empty false = .ok (archive, sawCentral) ∧
      archive = totals ((takenRecords bytes 0).map Prod.snd) := by
  unfold inspectZipArchive at accepted
  rw [bind_eq_ok] at accepted
  obtain ⟨⟨seen, sawCentral⟩, scanned, checked⟩ := accepted
  have same : seen = archive := by
    cases sawCentral with
    | true =>
        simpa [pure, Except.pure] using checked
    | false =>
        simp only [Bool.false_eq_true, if_false, bind_eq_ok, pure, Except.pure,
          Except.ok.injEq] at checked
        obtain ⟨_, _, _, _, same⟩ := checked
        exact same
  subst seen
  exact ⟨sawCentral, scanned, totals_of_scan scanned⟩

theorem compressed_totals (records : List CentralRecord) :
    (totals records).totalCompressedBytes =
      (records.map CentralRecord.compressed).sum := by
  obtain ⟨_, compressed, _, _, _⟩ := foldl_add records .empty
  rw [totals, compressed]
  exact Nat.zero_add _

/-- A report that misses nothing of a list of entries. -/
structure BoundsEntries (archive : ZipInspection) (entries : List CentralRecord) :
    Prop where
  count : entries.length ≤ archive.entries
  uncompressed :
    (entries.map CentralRecord.uncompressed).sum ≤ archive.totalUncompressedBytes
  ratio : ∀ entry ∈ entries, entry.expansionRatio ≤ archive.maxEntryExpansionRatio

theorem boundsEntries_of_sublist {entries records : List CentralRecord}
    (sublist : entries.Sublist records) : BoundsEntries (totals records) entries := by
  obtain ⟨count, _, uncompressed, _, bounds⟩ := foldl_add records .empty
  constructor
  · rw [totals, count]
    have shorter := sublist.length_le
    omega
  · rw [totals, uncompressed]
    have smaller := (sublist.map CentralRecord.uncompressed).sum_le_sum (fun _ _ => Nat.zero_le _)
    omega
  · intro entry member
    exact bounds entry (sublist.subset member)

/-- The directory has more entries, more content or a more expansive entry
than the policy allows, or is too expansive in total. -/
def ExceedsPolicy (policy : UploadPolicy) (entries : List CentralRecord) : Prop :=
  entries.length > policy.maxEntries ∨
    ((entries.map CentralRecord.uncompressed).sum : ℚ) > policy.maxUncompressed ∨
    (∃ entry ∈ entries, entry.expansionRatio > policy.maxArchiveExpansionRatio) ∨
    ((entries.map CentralRecord.uncompressed).sum : ℚ) /
        max 1 ((entries.map CentralRecord.compressed).sum : ℚ) >
      policy.maxArchiveExpansionRatio

/-- No entry claims content without any compressed bytes. -/
def ContentCompressed (entries : List CentralRecord) : Prop :=
  ∀ entry ∈ entries, entry.compressed = 0 → entry.uncompressed = 0

/-- The compressed bytes of records outside the directory do not dilute its
total ratio: they do not raise the denominator, or every entry with content
declares compressed bytes of its own, so that the largest ratio of an entry
bounds the total. -/
def TotalUndiluted (bytes : Bytes) (entries : List CentralRecord) : Prop :=
  ContentCompressed entries ∨
    max 1 (((takenRecords bytes 0).map Prod.snd).map CentralRecord.compressed).sum =
      max 1 (entries.map CentralRecord.compressed).sum

instance (bytes : Bytes) (entries : List CentralRecord) :
    Decidable (TotalUndiluted bytes entries) :=
  inferInstanceAs (Decidable ((∀ entry ∈ entries, _ → _) ∨ _))

/-- What the inspection is for: it throws, or it bounds the directory, and a
directory that exceeds the policy does not pass. -/
structure DirectoryInspected (bytes : Bytes) (entries : List CentralRecord) : Prop where
  bounds : ∀ archive, inspectZipArchive bytes = .ok archive →
    BoundsEntries archive entries
  rejected : ∀ (policy : UploadPolicy) (d : UploadDescriptor),
    d.mimeType ∈ archiveMimeTypes → ExceedsPolicy policy entries →
      ∃ error, checkArchive policy d bytes = .error error

private theorem length_of_readEntries {bytes : Bytes} {count offset : Nat}
    {entries : List CentralRecord} (read : readEntries bytes offset count = some entries)
    (nonempty : entries ≠ []) :
    offset + 4 ≤ bytes.length := by
  cases count with
  | zero =>
      cases read
      exact absurd rfl nonempty
  | succ count =>
      simp only [readEntries, bind, Option.bind_eq_some_iff] at read
      obtain ⟨_, readFirst, _⟩ := read
      exact (signature_of_readRecord readFirst).1

/-- The entries of a directory that no taken record straddles are among the
records the scan takes. -/
theorem sublist_takenRecords {bytes : Bytes} {start count : Nat}
    {entries : List CentralRecord} {outcome : ZipInspection × Bool}
    (succeeds : scan bytes 0 .empty false = .ok outcome)
    (read : readEntries bytes start count = some entries)
    (clear : NoneStraddles bytes start) :
    entries.Sublist ((takenRecords bytes 0).map Prod.snd) := by
  by_cases empty : entries = []
  · rw [empty]
    exact List.nil_sublist _
  · obtain ⟨passed, startSeen, startSaw, split, arrives⟩ :=
      scan_reaches succeeds (Nat.zero_le start) (length_of_readEntries read empty) clear
    obtain ⟨rest, taken⟩ := takenRecords_of_readEntries read arrives
    rw [split, List.map_append, taken]
    exact (List.sublist_append_left entries rest).trans (List.sublist_append_right _ _)

/-- The total ratio of entries is at most a bound on the ratio of each. -/
theorem uncompressed_le_of_ratios {entries : List CentralRecord} {bound : ℚ}
    (ratios : ∀ entry ∈ entries, entry.expansionRatio ≤ bound)
    (compressed : ContentCompressed entries) :
    ((entries.map CentralRecord.uncompressed).sum : ℚ) ≤
      bound * (entries.map CentralRecord.compressed).sum := by
  induction entries with
  | nil => simp
  | cons entry rest inductionHypothesis =>
      have others :=
        inductionHypothesis (fun other member => ratios other (List.mem_cons_of_mem _ member))
          (fun other member => compressed other (List.mem_cons_of_mem _ member))
      have first : (entry.uncompressed : ℚ) ≤ bound * entry.compressed := by
        by_cases empty : entry.compressed = 0
        · rw [empty, compressed entry List.mem_cons_self empty]
          simp
        · have atLeastOne : 1 ≤ entry.compressed := Nat.one_le_iff_ne_zero.mpr empty
          have positive : (0 : ℚ) < entry.compressed := by
            exact_mod_cast atLeastOne
          have ratio := ratios entry List.mem_cons_self
          rw [CentralRecord.expansionRatio, max_eq_right atLeastOne,
            div_le_iff₀ positive] at ratio
          exact ratio
      simp only [List.map_cons, List.sum_cons, Nat.cast_add, mul_add]
      linarith

theorem ratio_nonneg (uncompressed compressed : Nat) :
    (0 : ℚ) ≤ uncompressed / max 1 compressed := by
  apply div_nonneg
  · exact Nat.cast_nonneg uncompressed
  · exact Nat.cast_nonneg (max 1 compressed)

/-- When every entry with content declares compressed bytes, a report that
bounds a directory is over the policy's ratio when its total is. -/
theorem BoundsEntries.rejects_of_compressed {archive : ZipInspection}
    {entries : List CentralRecord} (bounds : BoundsEntries archive entries)
    (compressed : ContentCompressed entries) {policy : UploadPolicy}
    (tooExpansive : ((entries.map CentralRecord.uncompressed).sum : ℚ) /
        max 1 ((entries.map CentralRecord.compressed).sum : ℚ) >
      policy.maxArchiveExpansionRatio) :
    policy.rejects archive := by
  by_contra passes
  simp only [UploadPolicy.rejects, not_or, not_lt, gt_iff_lt] at passes
  obtain ⟨_, _, total, each⟩ := passes
  have nonnegative : 0 ≤ policy.maxArchiveExpansionRatio :=
    le_trans (ratio_nonneg _ _) total
  have bounded :=
    uncompressed_le_of_ratios
      (fun entry member => le_trans (bounds.ratio entry member) each) compressed
  have positive :
      (0 : ℚ) < max 1 ((entries.map CentralRecord.compressed).sum : ℚ) :=
    lt_of_lt_of_le zero_lt_one (le_max_left _ _)
  rw [gt_iff_lt, lt_div_iff₀ positive] at tooExpansive
  have larger := mul_le_mul_of_nonneg_left
    (le_max_right 1 ((entries.map CentralRecord.compressed).sum : ℚ)) nonnegative
  linarith

/-- With the directory's denominator the reported total ratio is at least the
directory's. -/
theorem BoundsEntries.ratio_le {archive : ZipInspection} {entries : List CentralRecord}
    (bounds : BoundsEntries archive entries)
    (sameDenominator : max 1 archive.totalCompressedBytes =
      max 1 (entries.map CentralRecord.compressed).sum) :
    ((entries.map CentralRecord.uncompressed).sum : ℚ) /
        max 1 ((entries.map CentralRecord.compressed).sum : ℚ) ≤
      archive.totalUncompressedBytes / max 1 archive.totalCompressedBytes := by
  have content :
      ((entries.map CentralRecord.uncompressed).sum : ℚ) ≤
        archive.totalUncompressedBytes := by
    exact_mod_cast bounds.uncompressed
  have denominator :
      ((max 1 archive.totalCompressedBytes : Nat) : ℚ) =
        max 1 ((entries.map CentralRecord.compressed).sum : ℚ) := by
    exact_mod_cast sameDenominator
  have nonnegative :
      (0 : ℚ) ≤ max 1 ((entries.map CentralRecord.compressed).sum : ℚ) :=
    le_trans zero_le_one (le_max_left _ _)
  rw [denominator]
  exact div_le_div_of_nonneg_right content nonnegative

/-- A report that bounds a directory exceeds the policy when it does. -/
theorem BoundsEntries.rejects {archive : ZipInspection} {entries : List CentralRecord}
    (bounds : BoundsEntries archive entries)
    (undiluted : ContentCompressed entries ∨
      max 1 archive.totalCompressedBytes =
        max 1 (entries.map CentralRecord.compressed).sum)
    {policy : UploadPolicy} (exceeds : ExceedsPolicy policy entries) :
    policy.rejects archive := by
  rcases exceeds with
    tooMany | tooLarge | ⟨entry, member, tooExpansive⟩ | tooExpansive
  · have count : (entries.length : ℚ) ≤ archive.entries := by
      exact_mod_cast bounds.count
    exact Or.inl (lt_of_lt_of_le tooMany count)
  · have uncompressed :
        ((entries.map CentralRecord.uncompressed).sum : ℚ) ≤
          archive.totalUncompressedBytes := by
      exact_mod_cast bounds.uncompressed
    exact Or.inr (Or.inl (lt_of_lt_of_le tooLarge uncompressed))
  · exact Or.inr (Or.inr (Or.inr
      (lt_of_lt_of_le tooExpansive (bounds.ratio entry member))))
  · rcases undiluted with compressed | sameDenominator
    · exact bounds.rejects_of_compressed compressed tooExpansive
    · exact Or.inr (Or.inr (Or.inl
        (lt_of_lt_of_le tooExpansive (bounds.ratio_le sameDenominator))))

/-- The inspection is sound for every directory that no record the scan takes
straddles and whose total no other record dilutes. -/
theorem directoryInspected_of_noneStraddles (bytes : Bytes) (endRecord start : Nat)
    (entries : List CentralRecord)
    (found : readDirectory bytes endRecord = some (start, entries))
    (clear : NoneStraddles bytes start) (undiluted : TotalUndiluted bytes entries) :
    DirectoryInspected bytes entries := by
  simp only [readDirectory, bind, Option.bind_eq_some_iff, pure, Option.some.injEq,
    Prod.mk.injEq] at found
  obtain ⟨_, _, _, _, count, _, offset, _, records, read, rfl, rfl⟩ := found
  have bounds : ∀ archive, inspectZipArchive bytes = .ok archive →
      BoundsEntries archive records := by
    intro archive accepted
    obtain ⟨sawCentral, succeeds, same⟩ := inspection_eq_totals accepted
    rw [same]
    exact boundsEntries_of_sublist (sublist_takenRecords succeeds read clear)
  refine ⟨bounds, ?_⟩
  intro policy d isArchive exceeds
  unfold checkArchive
  rw [if_pos isArchive]
  cases inspected : inspectZipArchive bytes with
  | error error => exact ⟨error, rfl⟩
  | ok archive =>
      have denominator : ContentCompressed records ∨
          max 1 archive.totalCompressedBytes =
            max 1 (records.map CentralRecord.compressed).sum := by
        obtain ⟨_, _, same⟩ := inspection_eq_totals inspected
        rw [same, compressed_totals]
        exact undiluted
      have rejected : policy.rejects archive :=
        (bounds archive inspected).rejects denominator exceeds
      refine ⟨"ARCHIVE_BOMB_REJECTED", ?_⟩
      rw [ok_bind, throwIf_of_pos rejected]
      rfl

/-! ## A record across the directory -/

/-- The bytes of a number, least significant first. -/
private def littleEndian : Nat → Nat → Bytes
  | 0, _ => []
  | width + 1, value => UInt8.ofNat value :: littleEndian width (value / 256)

private def centralBytes (compressed uncompressed commentLength : Nat) : Bytes :=
  littleEndian 4 centralSignature ++ List.replicate 16 0 ++ littleEndian 4 compressed ++
    littleEndian 4 uncompressed ++ List.replicate 4 0 ++ littleEndian 2 commentLength ++
    List.replicate 12 0

private def endBytes (count start : Nat) : Bytes :=
  littleEndian 4 endSignature ++ List.replicate 6 0 ++ littleEndian 2 count ++
    List.replicate 4 0 ++ littleEndian 4 start ++ List.replicate 2 0

private def localBytes : Bytes :=
  littleEndian 4 0x04034b50 ++ List.replicate 26 0

/-- One local header, a directory of one entry and its end record. -/
private def plainArchive : Bytes :=
  localBytes ++ centralBytes 10 100 0 ++ endBytes 1 30

/-- A record whose comment is the directory stands before it. -/
private def decoyArchive : Bytes :=
  localBytes ++ centralBytes 1 1 46 ++ centralBytes 1 1000000 0 ++ endBytes 1 76

theorem plainArchiveInspected :
    DirectoryInspected plainArchive [⟨10, 100, 0, 0, 0⟩] :=
  directoryInspected_of_noneStraddles plainArchive 76 30 [⟨10, 100, 0, 0, 0⟩]
    (by decide +kernel) (by decide +kernel) (by decide +kernel)

/-- The inspection reports one byte of content for a directory of a million. -/
theorem decoyHidesDirectory :
    ¬ ∀ (bytes : Bytes) (endRecord start : Nat) (entries : List CentralRecord),
        readDirectory bytes endRecord = some (start, entries) →
          DirectoryInspected bytes entries := by
  intro inspectsAll
  have inspected :=
    inspectsAll decoyArchive 122 76 [⟨1, 1000000, 0, 0, 0⟩] (by decide +kernel)
  cases accepted : inspectZipArchive decoyArchive with
  | error error =>
      have succeeds : (inspectZipArchive decoyArchive).toOption.isSome := by
        decide +kernel
      rw [accepted] at succeeds
      cases succeeds
  | ok archive =>
      have reported :
          (inspectZipArchive decoyArchive).toOption.map
            ZipInspection.totalUncompressedBytes = some 1 := by
        decide +kernel
      rw [accepted, Except.toOption, Option.map_some, Option.some.injEq] at reported
      have bound := (inspected.bounds archive accepted).uncompressed
      rw [reported] at bound
      revert bound
      decide

end PlatformArchitecture.Documents
