import Mathlib.Data.List.Basic

/-!
# Arrays that are shared

An array lives in a cell of the memory, and whoever knows the cell reads and
writes the same array.  A copy is a new cell.
-/

namespace PlatformArchitecture.Foundations

universe u

abbrev Memory (Item : Type u) :=
  List (List Item)

namespace Memory

variable {Item : Type u}

/-- What a cell holds. -/
def contents (memory : Memory Item) (cell : Nat) : List Item :=
  memory[cell]?.getD []

/-- `array[index] = item`: beyond its end an array is not changed. -/
def assign (memory : Memory Item) (cell index : Nat) (item : Item) : Memory Item :=
  memory.modify cell fun items => items.set index item

/-- A new array gets the next cell. -/
def allocate (memory : Memory Item) (items : List Item) : Memory Item :=
  memory ++ [items]

theorem length_assign (memory : Memory Item) (cell index : Nat) (item : Item) :
    (memory.assign cell index item).length = memory.length :=
  List.length_modify _ _ _

theorem length_allocate (memory : Memory Item) (items : List Item) :
    (memory.allocate items).length = memory.length + 1 :=
  List.length_append

theorem contents_allocate_new (memory : Memory Item) (items : List Item) :
    (memory.allocate items).contents memory.length = items := by
  simp [contents, allocate]

theorem contents_allocate_old {memory : Memory Item} {cell : Nat} (inside : cell < memory.length)
    (items : List Item) : (memory.allocate items).contents cell = memory.contents cell := by
  rw [contents, allocate, List.getElem?_append_left inside]
  rfl

theorem contents_assign_self {memory : Memory Item} {cell : Nat} (inside : cell < memory.length)
    (index : Nat) (item : Item) :
    (memory.assign cell index item).contents cell = (memory.contents cell).set index item := by
  simp [contents, assign, List.getElem?_eq_getElem inside]

theorem contents_assign_other {memory : Memory Item} {cell other : Nat}
    (different : cell ≠ other) (index : Nat) (item : Item) :
    (memory.assign cell index item).contents other = memory.contents other := by
  rw [contents, assign, List.getElem?_modify_ne _ _ different]
  rfl

/-- The arrays in distinct cells, after one of them is written. -/
theorem map_contents_assign {memory : Memory Item} {cells : List Nat} (distinct : cells.Nodup)
    (inside : ∀ cell ∈ cells, cell < memory.length) {position cell : Nat}
    (isCell : cells[position]? = some cell) (index : Nat) (item : Item) :
    cells.map (memory.assign cell index item).contents =
      (cells.map memory.contents).modify position fun items => items.set index item := by
  apply List.ext_getElem?
  intro place
  rw [List.getElem?_modify, List.getElem?_map, List.getElem?_map]
  cases found : cells[place]? with
  | none => rfl
  | some other =>
      by_cases same : position = place
      · subst same
        rw [isCell] at found
        cases found
        have within := inside cell (List.mem_of_getElem? isCell)
        simp [contents_assign_self within]
      · have apart : cell ≠ other := by
          intro equal
          subst equal
          obtain ⟨positionInside, _⟩ := List.getElem?_eq_some_iff.mp isCell
          exact same ((List.getElem?_inj positionInside distinct).mp (isCell.trans found.symm))
        simp [contents_assign_other apart, same]

end Memory

end PlatformArchitecture.Foundations
