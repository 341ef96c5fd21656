import Mathlib.Data.Int.Log
import Mathlib.Data.Rat.Floor
import Mathlib.Tactic.Linarith
import Mathlib.Tactic.Ring

/-!
# Rounding to binary digits

The rational number with a given number of significant binary digits that is nearest
to a given one, ties to even. The exponent is not bounded, so that nothing underflows
or overflows. The result has the sign of its argument, and differs from it by a small
part of it.
-/
namespace PamMvp.BinaryRounding

/-- The nearest integer, and of two the even one. -/
def roundHalfEven (q : ℚ) : ℤ :=
  let below := ⌊q⌋
  let fraction := q - below
  if fraction < 1 / 2 then below
  else if 1 / 2 < fraction then below + 1
  else if below % 2 = 0 then below
  else below + 1

theorem roundHalfEven_near (q : ℚ) : |(roundHalfEven q : ℚ) - q| ≤ 1 / 2 := by
  have hfloor := Int.floor_le q
  have hnext := Int.lt_floor_add_one q
  rw [abs_le]
  unfold roundHalfEven
  dsimp only
  split_ifs with hlow hhigh heven
  · constructor <;> linarith
  · push_cast
    constructor <;> linarith
  · constructor <;> linarith
  · push_cast
    constructor <;> linarith

/-- The part of the number before the point. -/
def truncate (q : ℚ) : ℤ := if 0 ≤ q then ⌊q⌋ else ⌈q⌉

/-- The exponent of the last of `digits` binary digits of `x`. -/
def lastExponent (digits : ℕ) (x : ℚ) : ℤ := Int.log 2 |x| - digits + 1

/-- The nearest number of `digits` significant binary digits. -/
def roundTo (digits : ℕ) (x : ℚ) : ℚ :=
  roundHalfEven (x / 2 ^ lastExponent digits x) * 2 ^ lastExponent digits x

section Error

variable (digits : ℕ) (x : ℚ)

theorem lastExponent_le (hx : x ≠ 0) :
    (2 : ℚ) ^ lastExponent digits x ≤ 2 * ((1 / 2) ^ digits * |x|) := by
  have hlog : (2 : ℚ) ^ Int.log 2 |x| ≤ |x| := Int.zpow_log_le_self one_lt_two (abs_pos.mpr hx)
  have hpow : (0 : ℚ) ≤ (1 / 2) ^ digits := by positivity
  have hsplit : (2 : ℚ) ^ lastExponent digits x =
      2 * ((1 / 2) ^ digits * 2 ^ Int.log 2 |x|) := by
    unfold lastExponent
    rw [zpow_add₀ two_ne_zero, zpow_sub₀ two_ne_zero, zpow_natCast, zpow_one, one_div, inv_pow]
    ring
  rw [hsplit]
  exact mul_le_mul_of_nonneg_left (mul_le_mul_of_nonneg_left hlog hpow) zero_le_two

/-- The rounding error is at most half a unit of the last digit. -/
theorem roundTo_near : |roundTo digits x - x| ≤ (1 / 2) ^ digits * |x| := by
  by_cases hx : x = 0
  · simp [hx, roundTo, roundHalfEven]
  have hunit : (0 : ℚ) < 2 ^ lastExponent digits x := zpow_pos two_pos _
  have hscaled : roundTo digits x - x = (roundHalfEven (x / 2 ^ lastExponent digits x) -
      x / 2 ^ lastExponent digits x) * 2 ^ lastExponent digits x := by
    rw [sub_mul, div_mul_cancel₀ _ hunit.ne']
    rfl
  calc |roundTo digits x - x|
      = |(roundHalfEven (x / 2 ^ lastExponent digits x) : ℚ) - x / 2 ^ lastExponent digits x| *
          2 ^ lastExponent digits x := by rw [hscaled, abs_mul, abs_of_pos hunit]
    _ ≤ 1 / 2 * 2 ^ lastExponent digits x :=
        mul_le_mul_of_nonneg_right (roundHalfEven_near _) hunit.le
    _ ≤ 1 / 2 * (2 * ((1 / 2) ^ digits * |x|)) :=
        mul_le_mul_of_nonneg_left (lastExponent_le digits x hx) (by norm_num)
    _ = (1 / 2) ^ digits * |x| := by ring

end Error

/-- The nearest `float`. -/
def double (x : ℚ) : ℚ := roundTo 53 x

section Double

variable {x : ℚ}

theorem double_near (x : ℚ) : |double x - x| ≤ (1 / 2) ^ 53 * |x| := roundTo_near 53 x

theorem double_pos (hx : 0 < x) : 0 < double x := by
  have hnear := abs_le.mp (double_near x)
  rw [abs_of_pos hx] at hnear
  have hsmall : (1 / 2 : ℚ) ^ 53 * x ≤ 1 / 2 * x :=
    mul_le_mul_of_nonneg_right (by norm_num) hx.le
  linarith [hnear.1]

theorem double_nonpos (hx : x ≤ 0) : double x ≤ 0 := by
  have hnear := abs_le.mp (double_near x)
  rw [abs_of_nonpos hx] at hnear
  have hsmall : (1 / 2 : ℚ) ^ 53 * -x ≤ 1 * -x :=
    mul_le_mul_of_nonneg_right (by norm_num) (neg_nonneg.mpr hx)
  linarith [hnear.2]

/-- Rounding keeps the sign. -/
theorem double_nonpos_iff : double x ≤ 0 ↔ x ≤ 0 := by
  constructor
  · intro h
    by_contra hx
    exact absurd h (not_le.mpr (double_pos (not_le.mp hx)))
  · exact double_nonpos

theorem double_le (hx : 0 ≤ x) : double x ≤ (1 + (1 / 2) ^ 53) * x := by
  have hnear := (abs_le.mp (double_near x)).2
  rw [abs_of_nonneg hx] at hnear
  linarith

end Double

example : double (1 / 10) = 3602879701896397 / 2 ^ 55 := by decide +kernel

example : double (2 ^ 53 + 1) = 2 ^ 53 ∧ double (2 ^ 53 + 3) = 2 ^ 53 + 4 := by decide +kernel

end PamMvp.BinaryRounding
