import Mathlib.Order.WithBot
import Mathlib.Data.Rat.Cast.Order
import PlatformArchitecture.Foundations.Json

/-!
# The order of numbers

Numbers are ordered as the language compares them, with the infinities at the
ends, and counters and times are whole numbers among them.  A product overflows
to an infinity, and zero times an infinity is not a number.
-/

namespace PlatformArchitecture.Foundations

namespace JsNumber

/-- The place of a number between the infinities. -/
def extended : JsNumber → WithBot (WithTop ℚ)
  | .finite value => ((value : WithTop ℚ) : WithBot (WithTop ℚ))
  | .infinite false => ((⊤ : WithTop ℚ) : WithBot (WithTop ℚ))
  | .infinite true => ⊥

theorem extended_injective : Function.Injective extended := by
  intro left right same
  cases left with
  | finite value =>
      cases right with
      | finite other =>
          exact congrArg finite (WithTop.coe_injective (WithBot.coe_injective same))
      | infinite negative => cases negative <;> cases same
  | infinite negative =>
      cases right with
      | finite other => cases negative <;> cases same
      | infinite otherNegative =>
          cases negative <;> cases otherNegative <;> first | rfl | cases same

instance : LinearOrder JsNumber :=
  LinearOrder.lift' extended extended_injective

instance : NatCast JsNumber :=
  ⟨fun count => .finite count⟩

theorem finite_le_finite {left right : ℚ} : finite left ≤ finite right ↔ left ≤ right := by
  show extended (finite left) ≤ extended (finite right) ↔ _
  rw [extended, extended, WithBot.coe_le_coe, WithTop.coe_le_coe]

theorem finite_lt_finite {left right : ℚ} : finite left < finite right ↔ left < right := by
  rw [← not_le, ← not_le, finite_le_finite]

theorem natCast_le_natCast {left right : Nat} :
    (left : JsNumber) ≤ (right : JsNumber) ↔ left ≤ right :=
  finite_le_finite.trans Nat.cast_le

theorem finite_lt_infinite (value : ℚ) : finite value < infinite false := by
  show extended (finite value) < extended (infinite false)
  exact WithBot.coe_lt_coe.mpr (WithTop.coe_lt_top value)

theorem not_lt_negative_infinite (value : JsNumber) : ¬ value < infinite true := by
  intro below
  have belowBot : extended value < ⊥ := below
  exact not_lt_bot belowBot

/-- `now + ms`. -/
def after (now : Nat) : JsNumber → JsNumber
  | .finite ms => .finite (now + ms)
  | .infinite negative => .infinite negative

/-- Less than `ms` has gone by since `before`. -/
theorem elapsed_lt_iff (now before : Nat) (ms : JsNumber) :
    finite ((now : ℚ) - before) < ms ↔ (now : JsNumber) < after before ms := by
  cases ms with
  | finite value =>
      show _ ↔ finite (now : ℚ) < finite (before + value)
      rw [finite_lt_finite, finite_lt_finite, sub_lt_iff_lt_add']
  | infinite negative =>
      cases negative
      · exact iff_of_true (finite_lt_infinite _) (finite_lt_infinite _)
      · exact iff_of_false (not_lt_negative_infinite _) (not_lt_negative_infinite _)

theorem after_mono (ms : JsNumber) {before later : Nat} (ordered : before ≤ later) :
    after before ms ≤ after later ms := by
  cases ms with
  | finite value =>
      have cast : (before : ℚ) ≤ later := Nat.cast_le.mpr ordered
      exact finite_le_finite.mpr (add_le_add_left cast value)
  | infinite negative => exact le_refl _

example : ((3 : Nat) : JsNumber) < .infinite false ∧ .infinite true < ((0 : Nat) : JsNumber) := by
  decide

/-! ## Products -/

/-- `left * right` before rounding, with `none` for NaN. -/
def product : JsNumber → JsNumber → Option JsNumber
  | .finite left, .finite right => some (.finite (left * right))
  | .finite value, .infinite negative | .infinite negative, .finite value =>
      if value = 0 then none else some (.infinite (negative != decide (value < 0)))
  | .infinite left, .infinite right => some (.infinite (left != right))

/-- A result that reaches the power of two behind the largest number is
infinite. -/
def overflow : JsNumber → JsNumber
  | .finite value =>
      if 2 ^ 1024 ≤ value then .infinite false
      else if value ≤ -2 ^ 1024 then .infinite true
      else .finite value
  | .infinite negative => .infinite negative

/-- `2 ** exponent`. -/
def powerOfTwo (exponent : Nat) : JsNumber :=
  overflow (.finite (2 ^ exponent))

/-- `Math.floor(number)`. -/
def floor : JsNumber → JsNumber
  | .finite value => .finite value.floor
  | .infinite negative => .infinite negative

theorem floor_le (number : JsNumber) : number.floor ≤ number := by
  cases number with
  | finite value => exact finite_le_finite.mpr (Rat.floor_le value)
  | infinite negative => exact le_refl _

theorem le_infinite (number : JsNumber) : number ≤ infinite false := by
  cases number with
  | finite value => exact (finite_lt_infinite value).le
  | infinite negative =>
      cases negative with
      | false => exact le_refl _
      | true => exact not_lt.mp (not_lt_negative_infinite _)

theorem overflow_nonneg {number : JsNumber} (nonneg : finite 0 ≤ number) :
    finite 0 ≤ overflow number := by
  cases number with
  | finite value =>
      rw [overflow]
      split
      · exact le_infinite _
      · split
        · next isBelow =>
          have valueNonneg : 0 ≤ value := finite_le_finite.mp nonneg
          have belowZero : (-2 ^ 1024 : ℚ) < 0 := neg_lt_zero.mpr (pow_pos two_pos _)
          exact absurd (valueNonneg.trans isBelow) (not_le.mpr belowZero)
        · exact nonneg
  | infinite negative => exact nonneg

/-- Between the bounds nothing changes. -/
theorem overflow_of_lt {value : ℚ} (nonneg : 0 ≤ value) (small : value < 2 ^ 1024) :
    overflow (finite value) = finite value := by
  have belowZero : (-2 ^ 1024 : ℚ) < 0 := neg_lt_zero.mpr (pow_pos two_pos _)
  rw [overflow, if_neg (not_le.mpr small), if_neg (not_le.mpr (belowZero.trans_le nonneg))]

theorem powerOfTwo_nonneg (exponent : Nat) : finite 0 ≤ powerOfTwo exponent :=
  overflow_nonneg (finite_le_finite.mpr (pow_nonneg two_pos.le _))

theorem product_comm (left right : JsNumber) : product left right = product right left := by
  cases left with
  | finite value =>
      cases right with
      | finite other => rw [product, product, mul_comm]
      | infinite negative => rfl
  | infinite negative =>
      cases right with
      | finite other => rfl
      | infinite otherNegative => rw [product, product, bne_comm]

/-- Infinity times a number that is not negative is infinite or not a number. -/
private theorem infinite_product {number result : JsNumber} (nonneg : finite 0 ≤ number)
    (isResult : product (infinite false) number = some result) : result = infinite false := by
  cases number with
  | finite value =>
      have valueNonneg : 0 ≤ value := finite_le_finite.mp nonneg
      rw [product, decide_eq_false (not_lt.mpr valueNonneg)] at isResult
      split at isResult
      · cases isResult
      · exact (Option.some.inj isResult).symm
  | infinite negative =>
      cases negative with
      | true => exact absurd nonneg (by decide)
      | false => exact (Option.some.inj isResult).symm

theorem product_nonneg {left right result : JsNumber} (leftNonneg : finite 0 ≤ left)
    (rightNonneg : finite 0 ≤ right) (isResult : product left right = some result) :
    finite 0 ≤ result := by
  cases left with
  | infinite negative =>
      cases negative with
      | true => exact absurd leftNonneg (by decide)
      | false =>
          rw [infinite_product rightNonneg isResult]
          exact le_infinite _
  | finite value =>
      cases right with
      | finite other =>
          obtain rfl := Option.some.inj isResult
          have valueNonneg : 0 ≤ value := finite_le_finite.mp leftNonneg
          exact finite_le_finite.mpr (mul_nonneg valueNonneg (finite_le_finite.mp rightNonneg))
      | infinite negative =>
          cases negative with
          | true => exact absurd rightNonneg (by decide)
          | false =>
              rw [product_comm] at isResult
              rw [infinite_product leftNonneg isResult]
              exact le_infinite _

/-- A fraction of a number that is not negative is at most the number. -/
theorem product_le {fraction : ℚ} {number result : JsNumber} (below : fraction ≤ 1)
    (nonneg : finite 0 ≤ number) (isResult : product (finite fraction) number = some result) :
    result ≤ number := by
  cases number with
  | finite value =>
      obtain rfl := Option.some.inj isResult
      have valueNonneg : 0 ≤ value := finite_le_finite.mp nonneg
      exact finite_le_finite.mpr (mul_le_of_le_one_left valueNonneg below)
  | infinite negative =>
      cases negative with
      | true => exact absurd nonneg (by decide)
      | false => exact le_infinite _

/-! ## Sums -/

/-- `left + right` before rounding, with `none` for NaN. -/
def sum : JsNumber → JsNumber → Option JsNumber
  | .finite left, .finite right => some (.finite (left + right))
  | .finite _, .infinite negative | .infinite negative, .finite _ => some (.infinite negative)
  | .infinite left, .infinite right => if left = right then some (.infinite left) else none

end JsNumber

/-- What the exact numbers leave open: how a result is rounded, and a power of
two with any exponent. -/
structure Arithmetic where
  rounded : ℚ → JsNumber
  powerOfTwo : JsNumber → JsNumber

namespace Arithmetic

variable (arithmetic : Arithmetic)

def round : JsNumber → JsNumber
  | .finite value => arithmetic.rounded value
  | .infinite negative => .infinite negative

/-- `number + step`. -/
def plus (step : ℚ) : JsNumber → JsNumber
  | .finite value => arithmetic.rounded (value + step)
  | .infinite negative => .infinite negative

/-- Without rounding, which whole numbers up to `2 ^ 53` do not need. -/
def unrounded : Arithmetic where
  rounded := .finite
  powerOfTwo
    | .finite exponent => .finite (2 ^ exponent.floor)
    | .infinite negative => if negative then .finite 0 else .infinite false

end Arithmetic

/-- What `Math.random()` returns. -/
abbrev Random :=
  {value : ℚ // 0 ≤ value ∧ value < 1}

theorem zero_isRandom : (0 : ℚ) ≤ 0 ∧ (0 : ℚ) < 1 :=
  ⟨le_refl 0, one_pos⟩

def Random.zero : Random :=
  ⟨0, zero_isRandom⟩

end PlatformArchitecture.Foundations
