import Mathlib.Data.List.Nodup
import PlatformArchitecture.Foundations.KeyedRows

/-!
# Tables whose primary key is unique

A table that carries the uniqueness of its key: an upsert and an update that
leaves the keys alone give such a table again, so what a statement leaves can be
said row by row.  Two lists hold the same values when they differ in order and
repetition only.
-/

namespace PlatformArchitecture.Foundations

universe u v

variable {Row : Type u} {Key : Type v}

/-- Rows under a key that no two of them share. -/
structure KeyedTable (key : Row → Key) where
  rows : List Row
  distinct : (rows.map key).Nodup

namespace KeyedTable

variable {key : Row → Key}

def empty : KeyedTable key :=
  ⟨[], List.nodup_nil⟩

/-- Two rows under one key are the same row. -/
theorem eq_of_key (table : KeyedTable key) {row other : Row} (member : row ∈ table.rows)
    (otherMember : other ∈ table.rows) (same : key row = key other) : row = other :=
  List.inj_on_of_nodup_map table.distinct member otherMember same

/-- `UPDATE` of columns outside the key. -/
def update (table : KeyedTable key) (change : Row → Row)
    (keeps : ∀ row, key (change row) = key row) : KeyedTable key where
  rows := table.rows.map change
  distinct := by
    have sameKeys : (table.rows.map change).map key = table.rows.map key := by
      simp [Function.comp_def, keeps]
    rw [sameKeys]
    exact table.distinct

/-- Some rows are deleted. -/
def restrict (table : KeyedTable key) (rows : List Row) (kept : rows.Sublist table.rows) :
    KeyedTable key where
  rows := rows
  distinct := table.distinct.sublist (kept.map key)

variable [DecidableEq Key]

def find (table : KeyedTable key) (wanted : Key) : Option Row :=
  findRow key wanted table.rows

theorem find_eq_some_iff (table : KeyedTable key) {wanted : Key} {row : Row} :
    table.find wanted = some row ↔ row ∈ table.rows ∧ key row = wanted := by
  constructor
  · intro found
    exact ⟨mem_of_findRow found, key_of_findRow found⟩
  · rintro ⟨member, rfl⟩
    obtain ⟨first, found⟩ := @exists_findRow_of_mem _ _ _ key row _ member
    have same := table.eq_of_key (mem_of_findRow found) member (key_of_findRow found)
    rw [← same] at found ⊢
    exact found

theorem find_eq_none_iff (table : KeyedTable key) {wanted : Key} :
    table.find wanted = none ↔ ∀ row ∈ table.rows, key row ≠ wanted := by
  constructor
  · intro absent row member same
    have found := table.find_eq_some_iff.mpr ⟨member, same⟩
    rw [absent] at found
    cases found
  · intro different
    cases found : table.find wanted with
    | none => rfl
    | some row =>
        obtain ⟨member, same⟩ := table.find_eq_some_iff.mp found
        exact absurd same (different row member)

/-- A row that a deletion keeps is found, one that it deletes is not. -/
theorem find_restrict (table : KeyedTable key) {rows : List Row}
    (kept : rows.Sublist table.rows) (keep : Row → Bool)
    (isKept : ∀ row ∈ table.rows, row ∈ rows ↔ keep row = true) (wanted : Key) :
    (table.restrict rows kept).find wanted = (table.find wanted).filter keep := by
  cases found : table.find wanted with
  | none =>
      rw [Option.filter_none, find_eq_none_iff]
      intro row member
      exact table.find_eq_none_iff.mp found row (kept.subset member)
  | some row =>
      obtain ⟨member, isKey⟩ := table.find_eq_some_iff.mp found
      by_cases keeps : keep row = true
      · rw [Option.filter_some_pos keeps, find_eq_some_iff]
        exact ⟨(isKept row member).mpr keeps, isKey⟩
      · rw [Option.filter_some_neg (Bool.not_eq_true _ ▸ keeps), find_eq_none_iff]
        intro other otherMember otherKey
        have same := table.eq_of_key (kept.subset otherMember) member (otherKey.trans isKey.symm)
        rw [same] at otherMember
        exact keeps ((isKept row member).mp otherMember)

/-- The keys after an upsert. -/
private theorem keys_upsertRow {merge : Row → Row → Row} {row : Row}
    (keeps : ∀ stored, key stored = key row → key (merge stored row) = key row)
    (rows : List Row) :
    (upsertRow key merge row rows).map key =
      if key row ∈ rows.map key then rows.map key else rows.map key ++ [key row] := by
  induction rows with
  | nil => rfl
  | cons stored rest inductionHypothesis =>
      by_cases same : key stored = key row
      · simp [upsertRow, same, keeps stored same]
      · simp only [upsertRow, if_neg same, List.map_cons, inductionHypothesis, List.mem_cons,
          Ne.symm same, false_or]
        split
        · rfl
        · rfl

/-- `INSERT ... ON CONFLICT (key) DO UPDATE`. -/
def upsert (table : KeyedTable key) (merge : Row → Row → Row) (row : Row)
    (keeps : ∀ stored, key stored = key row → key (merge stored row) = key row) :
    KeyedTable key where
  rows := upsertRow key merge row table.rows
  distinct := by
    rw [keys_upsertRow keeps]
    split
    · exact table.distinct
    · next absent =>
        rw [List.nodup_append]
        refine ⟨table.distinct, List.nodup_singleton _, ?_⟩
        intro stored member added isAdded same
        rw [same, List.mem_singleton.mp isAdded] at member
        exact absent member

section Upsert

variable {merge : Row → Row → Row} {row : Row}
  {keeps : ∀ stored, key stored = key row → key (merge stored row) = key row}

theorem find_upsert (table : KeyedTable key) (wanted : Key) :
    (table.upsert merge row keeps).find wanted =
      if wanted = key row then some (mergedRow merge row (table.find (key row)))
      else table.find wanted :=
  findRow_upsertRow keeps

/-- An upsert adds a row where none is found. -/
theorem length_upsert (table : KeyedTable key) :
    (table.upsert merge row keeps).rows.length =
      if (table.find (key row)).isSome then table.rows.length else table.rows.length + 1 := by
  have present : (table.find (key row)).isSome = true ↔ key row ∈ table.rows.map key := by
    rw [← not_iff_not, Bool.not_eq_true, Option.isSome_eq_false_iff, Option.isNone_iff_eq_none,
      find_eq_none_iff, List.mem_map, not_exists]
    simp only [not_and, ne_eq]
  have keys := congrArg List.length (keys_upsertRow keeps table.rows)
  rw [List.length_map] at keys
  rw [upsert, keys]
  by_cases member : key row ∈ table.rows.map key
  · rw [if_pos member, if_pos (present.mpr member), List.length_map]
  · rw [if_neg member, if_neg (mt present.mp member), List.length_append, List.length_map]
    rfl

/-- The rows after an upsert: the merged one, and those under other keys. -/
theorem mem_upsert (table : KeyedTable key) {other : Row} :
    other ∈ (table.upsert merge row keeps).rows ↔
      (other ∈ table.rows ∧ key other ≠ key row) ∨
        other = mergedRow merge row (table.find (key row)) := by
  have found : (table.upsert merge row keeps).find (key other) = some other ↔
      other ∈ (table.upsert merge row keeps).rows ∧ key other = key other :=
    find_eq_some_iff _
  rw [find_upsert] at found
  by_cases same : key other = key row
  · rw [if_pos same] at found
    constructor
    · intro member
      exact Or.inr (Option.some.inj (found.mpr ⟨member, rfl⟩)).symm
    · rintro (⟨_, different⟩ | merged)
      · exact absurd same different
      · exact (found.mp (congrArg some merged.symm)).1
  · rw [if_neg same] at found
    have keyOfMerged : key (mergedRow merge row (table.find (key row))) = key row := by
      cases stored : table.find (key row) with
      | none => rfl
      | some stored' => exact keeps stored' (table.find_eq_some_iff.mp stored).2
    constructor
    · intro member
      exact Or.inl ⟨(table.find_eq_some_iff.mp (found.mpr ⟨member, rfl⟩)).1, same⟩
    · rintro (⟨member, _⟩ | merged)
      · exact (found.mp (table.find_eq_some_iff.mpr ⟨member, rfl⟩)).1
      · exact absurd (merged ▸ keyOfMerged) same

end Upsert

end KeyedTable

/-! ## Lists compared as sets -/

/-- The same values, whatever their order and number. -/
def SameValues {Value : Type u} (left right : List Value) : Prop :=
  ∀ value, value ∈ left ↔ value ∈ right

namespace SameValues

variable {Value : Type u} {left right : List Value}

theorem of_perm (permuted : left.Perm right) : SameValues left right :=
  fun _ => permuted.mem_iff

theorem trans {other : List Value} (first : SameValues left right)
    (second : SameValues right other) : SameValues left other :=
  fun value => (first value).trans (second value)

/-- A test that can be made on the images selects the same images. -/
theorem filter_map {Left Right : Type u} {Image : Type v} {left : List Left}
    {right : List Right} {imageLeft : Left → Image} {imageRight : Right → Image}
    (same : SameValues (left.map imageLeft) (right.map imageRight))
    {testLeft : Left → Bool} {testRight : Right → Bool} (test : Image → Bool)
    (ofLeft : ∀ value, test (imageLeft value) = testLeft value)
    (ofRight : ∀ value, test (imageRight value) = testRight value) :
    SameValues ((left.filter testLeft).map imageLeft)
      ((right.filter testRight).map imageRight) := by
  have leftTest : testLeft = test ∘ imageLeft := (funext ofLeft).symm
  have rightTest : testRight = test ∘ imageRight := (funext ofRight).symm
  intro value
  rw [leftTest, rightTest, ← List.filter_map, ← List.filter_map, List.mem_filter,
    List.mem_filter, same value]

/-- Replacing values commutes with taking images. -/
theorem map_map {Left Right : Type u} {Image : Type v} {left : List Left}
    {right : List Right} {imageLeft : Left → Image} {imageRight : Right → Image}
    (same : SameValues (left.map imageLeft) (right.map imageRight))
    {changeLeft : Left → Left} {changeRight : Right → Right} (change : Image → Image)
    (ofLeft : ∀ value ∈ left, imageLeft (changeLeft value) = change (imageLeft value))
    (ofRight : ∀ value ∈ right, imageRight (changeRight value) = change (imageRight value)) :
    SameValues ((left.map changeLeft).map imageLeft)
      ((right.map changeRight).map imageRight) := by
  have leftImages : (left.map changeLeft).map imageLeft =
      (left.map imageLeft).map change := by
    rw [List.map_map, List.map_map]
    exact List.map_congr_left ofLeft
  have rightImages : (right.map changeRight).map imageRight =
      (right.map imageRight).map change := by
    rw [List.map_map, List.map_map]
    exact List.map_congr_left ofRight
  intro value
  rw [leftImages, rightImages, List.mem_map, List.mem_map]
  simp only [same _]

end SameValues

end PlatformArchitecture.Foundations
