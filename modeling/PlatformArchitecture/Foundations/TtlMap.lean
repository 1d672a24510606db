import Mathlib.Data.Option.Basic
import Mathlib.Logic.Function.Basic

/-!
# Maps whose records expire

A record is live until its deadline.  An expired record counts as absent, both
for reading and for storing a value under its key, so that two maps with the
same live records cannot be told apart from then on.
-/

namespace PlatformArchitecture.Foundations

universe u v

variable {Key : Type u} {Value : Type v}

structure TtlRecord (Value : Type v) where
  value : Value
  expiresAt : Nat

/-- The record of a cell, if it has not expired. -/
def live (now : Nat) (cell : Option (TtlRecord Value)) : Option (TtlRecord Value) :=
  cell.filter fun record => now < record.expiresAt

abbrev TtlMap (Key : Type u) (Value : Type v) :=
  Key → Option (TtlRecord Value)

namespace TtlMap

def empty : TtlMap Key Value :=
  fun _ => none

def get (now : Nat) (key : Key) (records : TtlMap Key Value) : Option Value :=
  (live now (records key)).map TtlRecord.value

/-- Two maps hold the same live records. -/
def SameAt (now : Nat) (left right : TtlMap Key Value) : Prop :=
  ∀ key, live now (left key) = live now (right key)

/-- Store a record under a key without a live one; the answer says whether it
was stored. -/
def putIfAbsent [DecidableEq Key] (now : Nat) (key : Key) (record : TtlRecord Value)
    (records : TtlMap Key Value) : Bool × TtlMap Key Value :=
  match live now (records key) with
  | some _ => (false, records)
  | none => (true, Function.update records key (some record))

end TtlMap

section Live

variable {now later : Nat} {cell : Option (TtlRecord Value)} {record : TtlRecord Value}

theorem live_eq_some :
    live now cell = some record ↔ cell = some record ∧ now < record.expiresAt := by
  unfold live
  rw [Option.filter_eq_some_iff, decide_eq_true_eq]

@[simp]
theorem live_none : live now (none : Option (TtlRecord Value)) = none :=
  rfl

theorem live_of_unexpired (unexpired : now < record.expiresAt) :
    live now (some record) = some record :=
  live_eq_some.mpr ⟨rfl, unexpired⟩

theorem live_of_expired (expired : record.expiresAt ≤ now) : live now (some record) = none := by
  cases found : live now (some record) with
  | none => rfl
  | some other =>
      obtain ⟨same, unexpired⟩ := live_eq_some.mp found
      cases same
      omega

/-- What is live later was live before. -/
theorem live_live (isLater : now ≤ later) : live later (live now cell) = live later cell := by
  cases cell with
  | none => rfl
  | some record =>
      by_cases unexpired : now < record.expiresAt
      · rw [live_of_unexpired unexpired]
      · have expired : record.expiresAt ≤ now := Nat.le_of_not_lt unexpired
        rw [live_of_expired expired, live_of_expired (Nat.le_trans expired isLater), live_none]

end Live

namespace TtlMap

section SameAt

variable {now later : Nat} {key : Key} {record : TtlRecord Value} {left right : TtlMap Key Value}

theorem SameAt.mono (same : SameAt now left right) (isLater : now ≤ later) :
    SameAt later left right := by
  intro key
  rw [← live_live isLater, same key, live_live isLater]

theorem SameAt.get (same : SameAt now left right) :
    left.get now key = right.get now key := by
  unfold TtlMap.get
  rw [same key]

variable [DecidableEq Key]

theorem SameAt.update (same : SameAt now left right) (key : Key) (cell : Option (TtlRecord Value)) :
    SameAt now (Function.update left key cell) (Function.update right key cell) := by
  intro other
  by_cases isKey : other = key
  · subst isKey
    rw [Function.update_self, Function.update_self]
  · rw [Function.update_of_ne isKey, Function.update_of_ne isKey]
    exact same other

/-- Forgetting an expired record changes nothing. -/
theorem SameAt.forget (same : SameAt now left right) (expired : live now (left key) = none) :
    SameAt now (Function.update left key none) right := by
  intro other
  by_cases isKey : other = key
  · subst isKey
    rw [Function.update_self, live_none, ← same other, expired]
  · rw [Function.update_of_ne isKey]
    exact same other

theorem putIfAbsent_of_live (isLive : live now (right key) = some record)
    (other : TtlRecord Value) : right.putIfAbsent now key other = (false, right) := by
  unfold putIfAbsent
  rw [isLive]

theorem putIfAbsent_of_absent (isAbsent : live now (right key) = none)
    (other : TtlRecord Value) :
    right.putIfAbsent now key other = (true, Function.update right key (some other)) := by
  unfold putIfAbsent
  rw [isAbsent]

end SameAt

end TtlMap

end PlatformArchitecture.Foundations
