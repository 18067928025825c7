/-
# VpsDashboard.Foundation.Binary64 — rounding to the nearest float64

An operation on `float64` gives the exact result rounded to 53 significant bits, to the
even one of two that are equally near.  `nearest` is that rounding of a rational, as long
as the result is neither so large nor so small that the format has no such number.

`nearest_error` bounds the error relative to the exact value, by `unit`; `nearest_le` and
`le_nearest` are its two sides for values that are not negative.
-/
import Mathlib.Data.Int.Log
import Mathlib.Data.Rat.Floor
import Mathlib.Tactic.Linarith
import Mathlib.Tactic.NormNum
import Mathlib.Tactic.Ring

namespace VpsDashboard.Foundation.Binary64

set_option autoImplicit false

/-- The nearest integer, the even one of two. -/
def halfEven (q : ℚ) : ℤ :=
  let rest := q - ⌊q⌋
  if rest < 1 / 2 ∨ rest = 1 / 2 ∧ ⌊q⌋ % 2 = 0 then ⌊q⌋ else ⌊q⌋ + 1

/-- The distance of neighbouring numbers of 53 bits around `x`. -/
def ulp (x : ℚ) : ℚ := 2 ^ (Int.log 2 |x| - 52)

def nearest (x : ℚ) : ℚ := halfEven (x / ulp x) * ulp x

/-- The largest relative error. -/
def unit : ℚ := 1 / 2 ^ 53

theorem halfEven_near (q : ℚ) : |halfEven q - q| ≤ 1 / 2 := by
  have low := Int.floor_le q
  have high := Int.lt_floor_add_one q
  unfold halfEven
  dsimp only
  split
  · rename_i down
    have below : q - ⌊q⌋ ≤ 1 / 2 := by
      rcases down with less | ⟨half, -⟩
      · exact le_of_lt less
      · exact le_of_eq half
    rw [abs_le]
    constructor <;> linarith
  · rename_i up
    have above : 1 / 2 ≤ q - ⌊q⌋ := not_lt.mp fun less => up (.inl less)
    rw [abs_le]
    push_cast
    constructor <;> linarith

theorem ulp_pos (x : ℚ) : 0 < ulp x := zpow_pos (by norm_num) _

theorem ulp_le {x : ℚ} (nonzero : x ≠ 0) : ulp x ≤ |x| * (2 * unit) := by
  have below := Int.zpow_log_le_self (b := 2) (by decide) (abs_pos.mpr nonzero)
  push_cast at below
  calc ulp x = 2 ^ Int.log 2 |x| * (2 * unit) := by
        rw [ulp, zpow_sub₀ (by norm_num), unit]
        norm_num
        ring
    _ ≤ |x| * (2 * unit) := mul_le_mul_of_nonneg_right below (by norm_num [unit])

/-- **The relative error is at most `unit`.** -/
theorem nearest_error (x : ℚ) : |nearest x - x| ≤ |x| * unit := by
  by_cases zero : x = 0
  · subst zero
    norm_num [nearest, halfEven]
  · have scaled : nearest x - x = (halfEven (x / ulp x) - x / ulp x) * ulp x := by
      rw [nearest, sub_mul, div_mul_cancel₀ _ (ulp_pos x).ne']
    calc |nearest x - x| = |halfEven (x / ulp x) - x / ulp x| * ulp x := by
          rw [scaled, abs_mul, abs_of_pos (ulp_pos x)]
      _ ≤ 1 / 2 * (|x| * (2 * unit)) :=
          mul_le_mul (halfEven_near _) (ulp_le zero) (ulp_pos x).le (by norm_num)
      _ = |x| * unit := by ring

theorem nearest_le {x : ℚ} (nonneg : 0 ≤ x) : nearest x ≤ x * (1 + unit) := by
  have error := (abs_le.mp (nearest_error x)).2
  rw [abs_of_nonneg nonneg] at error
  linarith

theorem le_nearest {x : ℚ} (nonneg : 0 ≤ x) : x * (1 - unit) ≤ nearest x := by
  have error := (abs_le.mp (nearest_error x)).1
  rw [abs_of_nonneg nonneg] at error
  linarith

theorem nearest_nonneg {x : ℚ} (nonneg : 0 ≤ x) : 0 ≤ nearest x :=
  (mul_nonneg nonneg (by norm_num [unit])).trans (le_nearest nonneg)

theorem nearest_nonpos {x : ℚ} (nonpos : x ≤ 0) : nearest x ≤ 0 := by
  have error := (abs_le.mp (nearest_error x)).2
  rw [abs_of_nonpos nonpos] at error
  have small : -x * unit ≤ -x := mul_le_of_le_one_right (by linarith) (by norm_num [unit])
  linarith

/-- A tenth lies between two numbers of the format. -/
example : nearest (1 / 10) = 3602879701896397 / 2 ^ 55 := by decide +kernel

end VpsDashboard.Foundation.Binary64
