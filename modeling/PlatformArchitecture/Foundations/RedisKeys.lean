import Mathlib.Data.Option.Basic

/-!
# Keys that expire in Redis

A key is served until its deadline.  In the very millisecond of the deadline the
server may or may not have it: expiry is exact to a millisecond only.
-/

namespace PlatformArchitecture.Foundations

/-- Whether a key with a deadline is still served; `lingers` says whether it is
in the very millisecond of the deadline. -/
def keyServed (lingers : Bool) (now : Nat) (expiresAt : Option Nat) : Bool :=
  match expiresAt with
  | none => true
  | some deadline => decide (now < deadline) || (lingers && decide (now = deadline))

variable {lingers : Bool} {now deadline : Nat} {expiresAt : Option Nat}

@[simp]
theorem keyServed_none : keyServed lingers now none = true :=
  rfl

theorem keyServed_some :
    keyServed lingers now (some deadline) = true ↔
      now < deadline ∨ lingers = true ∧ now = deadline := by
  simp only [keyServed, Bool.or_eq_true, Bool.and_eq_true, decide_eq_true_eq]

/-- Before the deadline nothing depends on the server. -/
theorem keyServed_of_before (before : now < deadline) :
    keyServed lingers now (some deadline) = true :=
  keyServed_some.mpr (Or.inl before)

/-- Outside the millisecond of the deadline nothing does. -/
theorem keyServed_of_apart (apart : lingers = true → expiresAt ≠ some now) :
    keyServed lingers now expiresAt = keyServed false now expiresAt := by
  cases expiresAt with
  | none => rfl
  | some deadline =>
      cases lingers with
      | false => rfl
      | true =>
          have different : now ≠ deadline := by
            rintro rfl
            exact apart rfl rfl
          simp only [keyServed, different, decide_false, Bool.and_false]

/-- The deadline that `EX` sets fits into 64 bits. -/
def takesExpiry (now seconds : Nat) : Bool :=
  now + seconds * 1000 ≤ 9223372036854775807

end PlatformArchitecture.Foundations
