import Mathlib.Data.List.Sort

/-!
# Tables of rows with a primary key

A table is a list of rows together with the column that is its key.  Inserting
a row whose key is present merges it into the stored row, which is what
`INSERT ... ON CONFLICT (key) DO UPDATE` does; a map whose `set` replaces the
value is the case where the merge keeps the new row only.
-/

namespace PlatformArchitecture.Foundations

universe u v

variable {Row : Type u} {Key : Type v} [DecidableEq Key]

/-- The row stored under a key. -/
def findRow (key : Row → Key) (wanted : Key) : List Row → Option Row
  | [] => none
  | row :: rest =>
      if key row = wanted then some row else findRow key wanted rest

/-- Insert a row, merging it into the row that already has its key. -/
def upsertRow (key : Row → Key) (merge : Row → Row → Row) (row : Row) :
    List Row → List Row
  | [] => [row]
  | stored :: rest =>
      if key stored = key row then
        merge stored row :: rest
      else
        stored :: upsertRow key merge row rest

/-- The row an upsert leaves under its key. -/
def mergedRow (merge : Row → Row → Row) (row : Row) : Option Row → Row
  | none => row
  | some stored => merge stored row

@[simp]
theorem mergedRow_none (merge : Row → Row → Row) (row : Row) :
    mergedRow merge row none = row :=
  rfl

@[simp]
theorem mergedRow_some (merge : Row → Row → Row) (row stored : Row) :
    mergedRow merge row (some stored) = merge stored row :=
  rfl

theorem key_of_findRow {key : Row → Key} {wanted : Key} {found : Row}
    {rows : List Row} (stored : findRow key wanted rows = some found) :
    key found = wanted := by
  induction rows with
  | nil =>
      cases stored
  | cons row rest inductionHypothesis =>
      by_cases same : key row = wanted
      · simp only [findRow, if_pos same, Option.some.injEq] at stored
        rw [← stored]
        exact same
      · simp only [findRow, if_neg same] at stored
        exact inductionHypothesis stored

theorem findRow_upsertRow_self {key : Row → Key} {merge : Row → Row → Row}
    {row : Row}
    (keepsKey : ∀ stored, key stored = key row → key (merge stored row) = key row)
    (rows : List Row) :
    findRow key (key row) (upsertRow key merge row rows) =
      some (mergedRow merge row (findRow key (key row) rows)) := by
  induction rows with
  | nil =>
      simp [upsertRow, findRow]
  | cons stored rest inductionHypothesis =>
      by_cases same : key stored = key row
      · simp [upsertRow, findRow, same, keepsKey stored same]
      · simp [upsertRow, findRow, same, inductionHypothesis]

theorem findRow_upsertRow_of_ne {key : Row → Key} {merge : Row → Row → Row}
    {row : Row} {wanted : Key} (other : wanted ≠ key row)
    (keepsKey : ∀ stored, key stored = key row → key (merge stored row) = key row)
    (rows : List Row) :
    findRow key wanted (upsertRow key merge row rows) = findRow key wanted rows := by
  induction rows with
  | nil =>
      simp [upsertRow, findRow, Ne.symm other]
  | cons stored rest inductionHypothesis =>
      by_cases same : key stored = key row
      · have storedOther : key stored ≠ wanted := by
          rw [same]
          exact Ne.symm other
        have mergedOther : key (merge stored row) ≠ wanted := by
          rw [keepsKey stored same]
          exact Ne.symm other
        simp [upsertRow, findRow, same, mergedOther, Ne.symm other]
      · simp [upsertRow, findRow, same, inductionHypothesis]

/-- After an upsert the row found under a key is the merged row, or the row
found there before. -/
theorem findRow_upsertRow {key : Row → Key} {merge : Row → Row → Row}
    {row : Row} {wanted : Key} {rows : List Row}
    (keepsKey : ∀ stored, key stored = key row → key (merge stored row) = key row) :
    findRow key wanted (upsertRow key merge row rows) =
      if wanted = key row then
        some (mergedRow merge row (findRow key (key row) rows))
      else
        findRow key wanted rows := by
  split
  · next same =>
      rw [same]
      exact findRow_upsertRow_self keepsKey rows
  · next other =>
      exact findRow_upsertRow_of_ne other keepsKey rows

section Images

variable {Image : Type u} {image : Row → Image} {key : Row → Key} {imageKey : Image → Key}

/-- The row found among images is the image of the row found. -/
theorem findRow_map (sameKey : ∀ row, imageKey (image row) = key row) (wanted : Key)
    (rows : List Row) :
    findRow imageKey wanted (rows.map image) = (findRow key wanted rows).map image := by
  induction rows with
  | nil => rfl
  | cons row rest inductionHypothesis =>
      rw [List.map_cons]
      by_cases found : key row = wanted
      · simp only [findRow, sameKey, if_pos found, Option.map_some]
      · simp only [findRow, sameKey, if_neg found, inductionHypothesis]

/-- An upsert among images is the image of the upsert. -/
theorem upsertRow_map {merge : Row → Row → Row} {imageMerge : Image → Image → Image}
    (sameKey : ∀ row, imageKey (image row) = key row)
    (sameMerge : ∀ stored row, imageMerge (image stored) (image row) = image (merge stored row))
    (row : Row) (rows : List Row) :
    upsertRow imageKey imageMerge (image row) (rows.map image) =
      (upsertRow key merge row rows).map image := by
  induction rows with
  | nil => rfl
  | cons stored rest inductionHypothesis =>
      rw [List.map_cons]
      by_cases same : key stored = key row
      · simp only [upsertRow, sameKey, if_pos same, List.map_cons, sameMerge]
      · simp only [upsertRow, sameKey, if_neg same, List.map_cons, inductionHypothesis]

end Images

theorem mem_of_findRow {key : Row → Key} {wanted : Key} {found : Row}
    {rows : List Row} (stored : findRow key wanted rows = some found) :
    found ∈ rows := by
  induction rows with
  | nil =>
      cases stored
  | cons row rest inductionHypothesis =>
      by_cases same : key row = wanted
      · simp only [findRow, if_pos same, Option.some.injEq] at stored
        rw [← stored]
        exact List.mem_cons_self
      · simp only [findRow, if_neg same] at stored
        exact List.mem_cons_of_mem row (inductionHypothesis stored)

/-- A stored row's key is found. -/
theorem exists_findRow_of_mem {key : Row → Key} {row : Row} {rows : List Row}
    (member : row ∈ rows) :
    ∃ found, findRow key (key row) rows = some found := by
  induction rows with
  | nil =>
      cases member
  | cons stored rest inductionHypothesis =>
      by_cases same : key stored = key row
      · exact ⟨stored, if_pos same⟩
      · rcases List.mem_cons.mp member with rfl | later
        · exact absurd rfl same
        · obtain ⟨found, foundLater⟩ := inductionHypothesis later
          exact ⟨found, (if_neg same).trans foundLater⟩

/-- A row after an upsert was there before, is the new row, or is the merge of
the row found under the new row's key. -/
theorem mem_upsertRow {key : Row → Key} {merge : Row → Row → Row} {row other : Row}
    {rows : List Row} (member : other ∈ upsertRow key merge row rows) :
    other ∈ rows ∨ (findRow key (key row) rows = none ∧ other = row) ∨
      ∃ stored, findRow key (key row) rows = some stored ∧
        other = merge stored row := by
  induction rows with
  | nil =>
      exact Or.inr (Or.inl ⟨rfl, List.mem_singleton.mp member⟩)
  | cons stored rest inductionHypothesis =>
      by_cases same : key stored = key row
      · simp only [upsertRow, if_pos same] at member
        simp only [findRow, if_pos same]
        rcases List.mem_cons.mp member with rfl | later
        · exact Or.inr (Or.inr ⟨stored, rfl, rfl⟩)
        · exact Or.inl (List.mem_cons_of_mem stored later)
      · simp only [upsertRow, if_neg same] at member
        simp only [findRow, if_neg same]
        rcases List.mem_cons.mp member with rfl | later
        · exact Or.inl List.mem_cons_self
        · rcases inductionHypothesis later with old | new
          · exact Or.inl (List.mem_cons_of_mem stored old)
          · exact Or.inr new

/-! ## Rows in an order -/

section Ordered

variable {Item : Type u} {first second : Item → Item → Prop} [DecidableRel first]
  [DecidableRel second]

theorem orderedInsert_congr {item : Item} {items : List Item}
    (same : ∀ other ∈ items, first item other ↔ second item other) :
    items.orderedInsert first item = items.orderedInsert second item := by
  induction items with
  | nil => rfl
  | cons head rest inductionHypothesis =>
      have sameHead : first item head ↔ second item head := same head List.mem_cons_self
      have sameRest := inductionHypothesis fun other member =>
        same other (List.mem_cons_of_mem head member)
      by_cases before : first item head
      · rw [List.orderedInsert_cons, List.orderedInsert_cons, if_pos before,
          if_pos (sameHead.mp before)]
      · rw [List.orderedInsert_cons, List.orderedInsert_cons, if_neg before,
          if_neg fun inSecond => before (sameHead.mpr inSecond), sameRest]

/-- A stable sort only compares an item with those that stand after it. -/
theorem insertionSort_congr {items : List Item}
    (same : items.Pairwise fun earlier later => first earlier later ↔ second earlier later) :
    items.insertionSort first = items.insertionSort second := by
  induction items with
  | nil => rfl
  | cons head rest inductionHypothesis =>
      obtain ⟨sameHead, sameRest⟩ := List.pairwise_cons.mp same
      rw [List.insertionSort_cons, List.insertionSort_cons, inductionHypothesis sameRest]
      apply orderedInsert_congr
      intro other member
      exact sameHead other ((List.mem_insertionSort second).mp member)

/-- Distinct times leave nothing open: whatever the order in which the rows are
read, `ORDER BY time DESC` lists them in one order. -/
theorem insertionSort_newest_perm {time : Item → Nat} {rows scanned : List Item}
    (distinct : (rows.map time).Nodup) (scan : scanned.Perm rows) :
    (scanned.insertionSort fun left right => time right ≤ time left) =
      rows.insertionSort fun left right => time right ≤ time left := by
  let newest : Item → Item → Prop := fun left right => time right ≤ time left
  have : Std.Total newest := ⟨fun left right => Nat.le_total (time right) (time left)⟩
  have : IsTrans Item newest := ⟨fun _ _ _ left right => right.trans left⟩
  have sameRows : (scanned.insertionSort newest).Perm (rows.insertionSort newest) :=
    ((List.perm_insertionSort newest scanned).trans scan).trans
      (List.perm_insertionSort newest rows).symm
  refine List.Perm.eq_of_pairwise ?_ (List.pairwise_insertionSort newest scanned)
    (List.pairwise_insertionSort newest rows) sameRows
  intro left right isLeft isRight notOlder notNewer
  have leftRow : left ∈ rows :=
    scan.mem_iff.mp ((List.mem_insertionSort newest).mp isLeft)
  have rightRow : right ∈ rows := (List.mem_insertionSort newest).mp isRight
  exact List.inj_on_of_nodup_map distinct leftRow rightRow (Nat.le_antisymm notNewer notOlder)

end Ordered

end PlatformArchitecture.Foundations
