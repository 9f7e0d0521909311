import Mathlib.Data.Int.Log
import Mathlib.Data.Rat.Floor
import Mathlib.Tactic.Linarith
import Mathlib.Tactic.FieldSimp

/-!
# Doubles

Python's `float` by the rationals it stands for: the result of an operation is the nearest number with a
significand of 53 bits, ties to even. Overflow and subnormal numbers are far from the times that are
computed here and are left out.
-/

namespace RedisPy

namespace Double

/-- The nearest integer, ties to even. -/
def roundHalfEven (x : ℚ) : ℤ :=
  if Int.fract x < 1 / 2 then ⌊x⌋
  else if 1 / 2 < Int.fract x then ⌊x⌋ + 1
  else if 2 ∣ ⌊x⌋ then ⌊x⌋
  else ⌊x⌋ + 1

/-- The last place of a significand of 53 bits. -/
def lastPlace (x : ℚ) : ℚ := 2 ^ (Int.log 2 |x| - 52)

/-- The nearest double. -/
def nearest (x : ℚ) : ℚ := if x = 0 then 0 else roundHalfEven (x / lastPlace x) * lastPlace x

/-- `int(x)`, towards zero. -/
def toInt (x : ℚ) : ℤ := if 0 ≤ x then ⌊x⌋ else ⌈x⌉

/-- An integer is the nearest one. -/
@[simp] theorem roundHalfEven_intCast (n : ℤ) : roundHalfEven n = n := by
  have whole : Int.fract (n : ℚ) < 1 / 2 := by
    rw [Int.fract_intCast]
    norm_num
  rw [roundHalfEven, if_pos whole, Int.floor_intCast]

/-- An integer is kept. -/
@[simp] theorem toInt_intCast (n : ℤ) : toInt n = n := by
  unfold toInt
  split
  · exact Int.floor_intCast n
  · exact Int.ceil_intCast n

/-- An integer of at most 53 bits is a double. -/
theorem nearest_intCast {n : ℤ} (small : |n| < 2 ^ 53) : nearest n = n := by
  by_cases zero : n = 0
  · rw [zero]
    rfl
  · have size : (1 : ℚ) ≤ |(n : ℚ)| := by
      rw [← Int.cast_abs]
      exact_mod_cast Int.one_le_abs zero
    have nonneg : 0 ≤ Int.log 2 |(n : ℚ)| := by
      have lower := Int.log_mono_right (b := 2) one_pos size
      rwa [Int.log_one_right] at lower
    have below : Int.log 2 |(n : ℚ)| ≤ 52 := by
      have fits : |(n : ℚ)| < (2 : ℕ) ^ (53 : ℤ) := by
        rw [← Int.cast_abs]
        exact_mod_cast small
      have less := (Int.lt_zpow_iff_log_lt (by decide) (by linarith)).mp fits
      omega
    obtain ⟨places, counted⟩ := Int.eq_ofNat_of_zero_le (Int.sub_nonneg.mpr below)
    -- the integer is a whole number of last places
    have place : lastPlace n = ((2 : ℚ) ^ places)⁻¹ := by
      have opposite : Int.log 2 |(n : ℚ)| - 52 = -(places : ℤ) := by omega
      rw [lastPlace, opposite, zpow_neg, zpow_natCast]
    have power : (2 : ℚ) ^ places ≠ 0 := pow_ne_zero _ two_ne_zero
    have scaled : (n : ℚ) / lastPlace n = ((n * 2 ^ places : ℤ) : ℚ) := by
      rw [place, div_inv_eq_mul]
      push_cast
      rfl
    have nonzero : (n : ℚ) ≠ 0 := Int.cast_ne_zero.mpr zero
    rw [nearest, if_neg nonzero, scaled, roundHalfEven_intCast, place]
    push_cast
    field_simp

end Double

end RedisPy
