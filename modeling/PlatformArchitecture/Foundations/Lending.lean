import Mathlib.Data.List.Nodup

/-!
# Lending

A pool lends each of its items to one borrower at a time, and a borrower has at
most one item.  The borrower of an item is therefore known, and what another
borrower does with its own item is not done to this one.
-/

namespace PlatformArchitecture.Foundations

/-- The loans that are out: no item is lent twice and no borrower has two. -/
structure Lending (Borrower Item : Type) where
  loans : List (Borrower × Item)
  oneItem : (loans.map Prod.fst).Nodup
  oneBorrower : (loans.map Prod.snd).Nodup

namespace Lending

variable {Borrower Item : Type}

def nothingLent : Lending Borrower Item :=
  ⟨[], List.nodup_nil, List.nodup_nil⟩

variable [DecidableEq Borrower] [DecidableEq Item]

/-- The item that a borrower has. -/
def itemOf (lending : Lending Borrower Item) (borrower : Borrower) : Option Item :=
  lending.loans.lookup borrower

/-- Neither the borrower nor the item has a loan. -/
def isFree (lending : Lending Borrower Item) (borrower : Borrower) (item : Item) : Bool :=
  lending.loans.all fun loan => decide (loan.1 ≠ borrower) && decide (loan.2 ≠ item)

theorem unused_of_isFree {lending : Lending Borrower Item} {borrower : Borrower} {item : Item}
    (free : lending.isFree borrower item = true) :
    borrower ∉ lending.loans.map Prod.fst ∧ item ∉ lending.loans.map Prod.snd := by
  simp only [isFree, List.all_eq_true, Bool.and_eq_true, decide_eq_true_eq] at free
  constructor
  · intro member
    obtain ⟨loan, isLoan, same⟩ := List.mem_map.mp member
    exact (free loan isLoan).1 same
  · intro member
    obtain ⟨loan, isLoan, same⟩ := List.mem_map.mp member
    exact (free loan isLoan).2 same

/-- Lend an item, unless it is out or its borrower has one already. -/
def lend (lending : Lending Borrower Item) (borrower : Borrower) (item : Item) :
    Option (Lending Borrower Item) :=
  if free : lending.isFree borrower item = true then
    some
      { loans := (borrower, item) :: lending.loans
        oneItem := List.nodup_cons.mpr ⟨(unused_of_isFree free).1, lending.oneItem⟩
        oneBorrower := List.nodup_cons.mpr ⟨(unused_of_isFree free).2, lending.oneBorrower⟩ }
  else none

/-- A borrower gives its item back. -/
def giveBack (lending : Lending Borrower Item) (borrower : Borrower) :
    Lending Borrower Item where
  loans := lending.loans.filter fun loan => loan.1 ≠ borrower
  oneItem := lending.oneItem.sublist (List.filter_sublist.map Prod.fst)
  oneBorrower := lending.oneBorrower.sublist (List.filter_sublist.map Prod.snd)

omit [DecidableEq Item] in
private theorem lookup_iff_loan {loans : List (Borrower × Item)}
    (once : (loans.map Prod.fst).Nodup) (borrower : Borrower) (item : Item) :
    loans.lookup borrower = some item ↔ (borrower, item) ∈ loans := by
  induction loans with
  | nil => simp
  | cons loan rest inductionHypothesis =>
      obtain ⟨owner, lentItem⟩ := loan
      obtain ⟨ownerNew, restOnce⟩ := List.nodup_cons.mp once
      by_cases same : borrower = owner
      · subst same
        have absent : (borrower, item) ∉ rest :=
          fun member => ownerNew (List.mem_map.mpr ⟨_, member, rfl⟩)
        simp [absent, eq_comm]
      · have differs : (borrower == owner) = false := by simpa using same
        simp only [List.lookup_cons, differs, List.mem_cons, Prod.mk.injEq, same, false_and,
          false_or]
        exact inductionHypothesis restOnce

variable {lending after : Lending Borrower Item} {borrower other : Borrower}
  {item otherItem : Item}

omit [DecidableEq Item] in
theorem itemOf_eq_some_iff :
    lending.itemOf borrower = some item ↔ (borrower, item) ∈ lending.loans :=
  lookup_iff_loan lending.oneItem borrower item

omit [DecidableEq Item] in
/-- An item has one borrower. -/
theorem borrower_unique (has : lending.itemOf borrower = some item)
    (otherHas : lending.itemOf other = some item) : other = borrower := by
  have loan := itemOf_eq_some_iff.mp has
  have otherLoan := itemOf_eq_some_iff.mp otherHas
  have same := List.inj_on_of_nodup_map lending.oneBorrower otherLoan loan rfl
  exact congrArg Prod.fst same

/-- What a loan changes, and that the item was in. -/
theorem lend_spec (lent : lending.lend borrower item = some after) :
    lending.itemOf borrower = none ∧ after.itemOf borrower = some item ∧
      (∀ other, lending.itemOf other ≠ some item) ∧
      ∀ other, other ≠ borrower → after.itemOf other = lending.itemOf other := by
  unfold lend at lent
  split at lent
  · next free =>
      have unused := unused_of_isFree free
      cases lent
      have borrowerNew : lending.itemOf borrower = none := by
        apply Option.eq_none_iff_forall_ne_some.mpr
        intro found has
        exact unused.1 (List.mem_map.mpr ⟨_, itemOf_eq_some_iff.mp has, rfl⟩)
      refine ⟨borrowerNew, by simp [itemOf], ?_, ?_⟩
      · intro other has
        exact unused.2 (List.mem_map.mpr ⟨_, itemOf_eq_some_iff.mp has, rfl⟩)
      · intro other different
        have differs : (other == borrower) = false := by simpa using different
        simp [itemOf, List.lookup_cons, differs]
  · cases lent

omit [DecidableEq Item] in
@[simp]
theorem itemOf_giveBack_self : (lending.giveBack borrower).itemOf borrower = none := by
  apply Option.eq_none_iff_forall_ne_some.mpr
  intro found has
  have kept := itemOf_eq_some_iff.mp has
  simp [giveBack] at kept

omit [DecidableEq Item] in
theorem itemOf_giveBack_other (different : other ≠ borrower) :
    (lending.giveBack borrower).itemOf other = lending.itemOf other := by
  apply Option.ext
  intro found
  simp [itemOf_eq_some_iff, giveBack, different]

end Lending

end PlatformArchitecture.Foundations
