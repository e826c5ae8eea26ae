import Mathlib.Data.Int.Log
import Mathlib.Data.Rat.Floor

/-! Rounding of rational numbers to doubles, to nearest with ties to even. -/

namespace PertiskProxy

namespace Binary64

def roundEven (value : ℚ) : ℤ :=
  let low := ⌊value⌋
  if value - low < 1 / 2 ∨ (value - low = 1 / 2 ∧ low % 2 = 0) then low else low + 1

/-- The distance of neighbouring doubles at a magnitude. -/
def ulp (value : ℚ) : ℚ :=
  2 ^ max (Int.log 2 value - 52) (-1074)

def nearest (value : ℚ) : ℚ :=
  roundEven (value / ulp value) * ulp value

theorem abs_roundEven_sub_le (value : ℚ) : |roundEven value - value| ≤ 1 / 2 := by
  have lower := Int.floor_le value
  have upper := Int.lt_floor_add_one value
  unfold roundEven
  dsimp only
  split
  · next below =>
    rw [abs_sub_comm, abs_of_nonneg (by linarith)]
    rcases below with below | ⟨tie, -⟩ <;> linarith
  · next above =>
    have high : 1 / 2 ≤ value - ⌊value⌋ := not_lt.mp fun below => above (.inl below)
    push_cast
    rw [abs_of_nonneg (by linarith)]
    linarith

theorem ulp_pos (value : ℚ) : 0 < ulp value :=
  zpow_pos (by norm_num) _

theorem ulp_le (positive : 0 < value) : ulp value ≤ value / 2 ^ 52 + 1 / 2 ^ 255 := by
  have normal : (2 : ℚ) ^ (Int.log 2 value - 52) ≤ value / 2 ^ 52 := by
    rw [zpow_sub₀ (by norm_num)]
    exact div_le_div_of_nonneg_right (by exact_mod_cast Int.zpow_log_le_self one_lt_two positive)
      (by positivity)
  unfold ulp
  rcases max_choice (Int.log 2 value - 52) (-1074) with same | same <;> rw [same]
  · have tiny : (0 : ℚ) < 1 / 2 ^ 255 := by positivity
    linarith
  · have tiny : (2 : ℚ) ^ (-1074 : ℤ) ≤ 2 ^ (-255 : ℤ) :=
      zpow_le_zpow_right₀ one_le_two (by decide)
    have large : 0 < value / 2 ^ 52 := by positivity
    rw [zpow_neg (2 : ℚ) 255, ← one_div] at tiny
    exact le_add_of_nonneg_of_le large.le tiny

theorem nearest_nonneg (nonneg : 0 ≤ value) : 0 ≤ nearest value := by
  have low : 0 ≤ ⌊value / ulp value⌋ := Int.floor_nonneg.mpr (div_nonneg nonneg (ulp_pos _).le)
  refine mul_nonneg ?_ (ulp_pos _).le
  unfold roundEven
  dsimp only
  split <;> exact_mod_cast (by omega)

/-- Rounding is off by half a unit in the last place. -/
theorem abs_nearest_sub_le (nonneg : 0 ≤ value) :
    |nearest value - value| ≤ value / 2 ^ 53 + 1 / 2 ^ 256 := by
  rcases nonneg.eq_or_lt with rfl | positive
  · simp [nearest, roundEven]
  have unit := ulp_pos value
  have scaled : nearest value - value =
      (roundEven (value / ulp value) - value / ulp value) * ulp value := by
    rw [nearest, sub_mul, div_mul_cancel₀ _ unit.ne']
  calc |nearest value - value|
      = |roundEven (value / ulp value) - value / ulp value| * ulp value := by
        rw [scaled, abs_mul, abs_of_pos unit]
    _ ≤ 1 / 2 * (value / 2 ^ 52 + 1 / 2 ^ 255) :=
        mul_le_mul (abs_roundEven_sub_le _) (ulp_le positive) unit.le (by norm_num)
    _ = value / 2 ^ 53 + 1 / 2 ^ 256 := by ring

end Binary64

end PertiskProxy
