/-
# VpsDashboard.Host.Rate — bytes per second in float64

`Collect` divides what a counter has grown by the seconds that have passed, in `float64`,
and cuts the quotient to a `uint64`.  The time, the growth and the quotient are rounded,
so that the quotient may reach the next whole number: 2000000003 bytes in 2000000001
nanoseconds are less than 1000000001 bytes per second, which is what comes out.

`perSec_mul_le` — where the exact quotient is farther below the next whole number than
2^-50 of itself (`Clear`), the rate accounts for no more than the growth.
-/
import VpsDashboard.Foundation.Binary64
import VpsDashboard.Foundation.Go

namespace VpsDashboard.Host

open Foundation

set_option autoImplicit false

/-- `Duration.Seconds`. -/
def seconds (d : Duration) : ℚ :=
  let sec := d.tdiv Time.second
  let nsec := d.tmod Time.second
  Binary64.nearest (Binary64.nearest sec + Binary64.nearest (Binary64.nearest nsec / 1000000000))

/-- The conversion of a `float64` that is not negative to a `uint64`.  What becomes of one
that does not fit depends on the platform; this is `amd64`. -/
def toUint64 (f : ℚ) : Nat := if f < 2 ^ 64 then ⌊f⌋.toNat else 2 ^ 63

/-- `uint64(float64(bytes) / elapsed.Seconds())`. -/
def perSec (bytes : Nat) (elapsed : Duration) : Nat :=
  toUint64 (Binary64.nearest (Binary64.nearest bytes / seconds elapsed))

/-- The exact quotient lies below the next whole number by more than 2^-50 of itself. -/
def Clear (bytes : Nat) (elapsed : Duration) : Prop :=
  bytes * Time.second < 2 ^ 50 * (elapsed - bytes * Time.second % elapsed)

instance (bytes : Nat) (elapsed : Duration) : Decidable (Clear bytes elapsed) :=
  inferInstanceAs (Decidable (_ < _))

/-! ## Seconds -/

theorem seconds_nonpos {d : Duration} (nonpos : d ≤ 0) : seconds d ≤ 0 := by
  obtain ⟨n, rfl⟩ := Int.exists_eq_neg_ofNat nonpos
  have sec : (((-n : Int).tdiv Time.second : Int) : ℚ) ≤ 0 := by
    have whole := Int.tdiv_nonneg (Int.natCast_nonneg n) (b := Time.second) (by decide)
    rw [Int.neg_tdiv]
    exact_mod_cast Int.neg_nonpos_of_nonneg whole
  have nsec : (((-n : Int).tmod Time.second : Int) : ℚ) ≤ 0 := by
    have rest := Int.tmod_nonneg Time.second (Int.natCast_nonneg n)
    rw [Int.neg_tmod]
    exact_mod_cast Int.neg_nonpos_of_nonneg rest
  have fraction := div_nonpos_of_nonpos_of_nonneg (Binary64.nearest_nonpos nsec)
    (by norm_num : (0 : ℚ) ≤ 1000000000)
  apply Binary64.nearest_nonpos
  exact add_nonpos (Binary64.nearest_nonpos sec) (Binary64.nearest_nonpos fraction)

/-- Three roundings take no more than three units off the time. -/
theorem le_seconds {d : Duration} (nonneg : 0 ≤ d) :
    d / 1000000000 * (1 - Binary64.unit) ^ 3 ≤ seconds d := by
  have whole : (d : ℚ) = 1000000000 * (d.tdiv Time.second : Int) + (d.tmod Time.second : Int) := by
    exact_mod_cast (Int.mul_tdiv_add_tmod d Time.second).symm
  have sec : (0 : ℚ) ≤ (d.tdiv Time.second : Int) := by
    exact_mod_cast Int.tdiv_nonneg nonneg (by decide)
  have nsec : (0 : ℚ) ≤ (d.tmod Time.second : Int) := by
    exact_mod_cast Int.tmod_nonneg Time.second nonneg
  rw [whole]
  unfold seconds
  dsimp only
  generalize ((d.tdiv Time.second : Int) : ℚ) = s at sec
  generalize ((d.tmod Time.second : Int) : ℚ) = n at nsec
  have kept : 0 ≤ 1 - Binary64.unit := by norm_num [Binary64.unit]
  have small : 1 - Binary64.unit ≤ 1 := by norm_num [Binary64.unit]
  have fraction : 0 ≤ Binary64.nearest n / 1000000000 :=
    div_nonneg (Binary64.nearest_nonneg nsec) (by norm_num)
  have first : s * (1 - Binary64.unit) ^ 2 ≤ Binary64.nearest s := by
    refine le_trans ?_ (Binary64.le_nearest sec)
    exact mul_le_mul_of_nonneg_left (pow_le_of_le_one kept small two_ne_zero) sec
  have second : n / 1000000000 * (1 - Binary64.unit) ^ 2 ≤
      Binary64.nearest (Binary64.nearest n / 1000000000) := by
    refine le_trans ?_ (Binary64.le_nearest fraction)
    have cut := mul_le_mul_of_nonneg_right (Binary64.le_nearest nsec) kept
    linarith
  have sum := Binary64.le_nearest
    (add_nonneg (Binary64.nearest_nonneg sec) (Binary64.nearest_nonneg fraction))
  refine le_trans ?_ sum
  have both := mul_le_mul_of_nonneg_right (add_le_add first second) kept
  refine le_trans (le_of_eq ?_) both
  ring

theorem seconds_pos_iff {d : Duration} : 0 < seconds d ↔ 0 < d := by
  constructor
  · intro positive
    by_contra nonpos
    exact absurd (seconds_nonpos (not_lt.mp nonpos)) (not_le.mpr positive)
  · intro positive
    refine lt_of_lt_of_le ?_ (le_seconds positive.le)
    have cast : (0 : ℚ) < d := by exact_mod_cast positive
    have kept : 0 < (1 - Binary64.unit) ^ 3 := by norm_num [Binary64.unit]
    positivity

/-! ## The quotient -/

/-- All roundings together lift the quotient by less than 2^-50 of itself. -/
theorem quotient_le (bytes : Nat) {elapsed : Duration} (positive : 0 < elapsed) :
    Binary64.nearest (Binary64.nearest bytes / seconds elapsed) ≤
      bytes * 1000000000 / elapsed * (1 + 1 / 2 ^ 50) := by
  have cast : (0 : ℚ) < elapsed := by exact_mod_cast positive
  have growth : (0 : ℚ) ≤ bytes := Nat.cast_nonneg bytes
  have lower : 0 < elapsed / 1000000000 * (1 - Binary64.unit) ^ 3 := by
    have kept : 0 < (1 - Binary64.unit) ^ 3 := by norm_num [Binary64.unit]
    positivity
  have raised : 0 ≤ 1 + Binary64.unit := by norm_num [Binary64.unit]
  calc Binary64.nearest (Binary64.nearest bytes / seconds elapsed)
      ≤ Binary64.nearest bytes / seconds elapsed * (1 + Binary64.unit) :=
        Binary64.nearest_le (div_nonneg (Binary64.nearest_nonneg growth)
          (seconds_pos_iff.mpr positive).le)
    _ ≤ bytes * (1 + Binary64.unit) / (elapsed / 1000000000 * (1 - Binary64.unit) ^ 3) *
          (1 + Binary64.unit) := by
        apply mul_le_mul_of_nonneg_right _ raised
        exact div_le_div₀ (mul_nonneg growth raised) (Binary64.nearest_le growth) lower
          (le_seconds positive.le)
    _ = bytes * 1000000000 / elapsed * ((1 + Binary64.unit) ^ 2 / (1 - Binary64.unit) ^ 3) := by
        field_simp
    _ ≤ bytes * 1000000000 / elapsed * (1 + 1 / 2 ^ 50) := by
        apply mul_le_mul_of_nonneg_left _ (by positivity)
        norm_num [Binary64.unit]

/-- **A clear quotient is not rounded up** to the next whole number. -/
theorem perSec_mul_le {bytes : Nat} {elapsed : Duration} (positive : 0 < elapsed)
    (clear : Clear bytes elapsed) : perSec bytes elapsed * elapsed ≤ bytes * Time.second := by
  have cast : (0 : ℚ) < elapsed := by exact_mod_cast positive
  have rest : 0 ≤ bytes * Time.second % elapsed := Int.emod_nonneg _ positive.ne'
  -- The next whole number after the exact quotient.
  let next := bytes * Time.second / elapsed + 1
  have above : next * elapsed =
      bytes * Time.second + (elapsed - bytes * Time.second % elapsed) := by
    have split := Int.ediv_mul_add_emod (bytes * Time.second) elapsed
    show (bytes * Time.second / elapsed + 1) * elapsed = _
    rw [Int.add_mul]
    linarith
  have margin : (bytes * 1000000000 : ℚ) * (1 + 1 / 2 ^ 50) < next * elapsed := by
    have gap : (bytes * 1000000000 : ℚ) <
        2 ^ 50 * (elapsed - (bytes * Time.second % elapsed : Int)) := by exact_mod_cast clear
    have sum : (next * elapsed : ℚ) =
        bytes * 1000000000 + (elapsed - (bytes * Time.second % elapsed : Int)) := by
      exact_mod_cast above
    rw [sum]
    linarith
  have below : Binary64.nearest (Binary64.nearest bytes / seconds elapsed) < next := by
    refine lt_of_le_of_lt (quotient_le bytes positive) ?_
    rw [div_mul_eq_mul_div, div_lt_iff₀ cast]
    exact margin
  have fits : Binary64.nearest (Binary64.nearest bytes / seconds elapsed) < 2 ^ 64 := by
    refine lt_of_le_of_lt (quotient_le bytes positive) ?_
    have gap : (bytes * 1000000000 : ℚ) < 2 ^ 50 * elapsed := by
      have whole : bytes * Time.second < 2 ^ 50 * elapsed := by
        refine clear.trans_le ?_
        linarith
      exact_mod_cast whole
    rw [div_mul_eq_mul_div, div_lt_iff₀ cast]
    linarith
  have floor : ⌊Binary64.nearest (Binary64.nearest bytes / seconds elapsed)⌋ < next :=
    Int.floor_lt.mpr below
  have nonneg : 0 ≤ ⌊Binary64.nearest (Binary64.nearest bytes / seconds elapsed)⌋ := by
    apply Int.floor_nonneg.mpr
    apply Binary64.nearest_nonneg
    exact div_nonneg (Binary64.nearest_nonneg (Nat.cast_nonneg bytes))
      (seconds_pos_iff.mpr positive).le
  rw [perSec, toUint64, if_pos fits, Int.toNat_of_nonneg nonneg]
  calc ⌊Binary64.nearest (Binary64.nearest bytes / seconds elapsed)⌋ * elapsed
      ≤ bytes * Time.second / elapsed * elapsed :=
        Int.mul_le_mul_of_nonneg_right (Int.lt_add_one_iff.mp floor) positive.le
    _ ≤ bytes * Time.second := Int.ediv_mul_le _ positive.ne'

/-- The quotient that is rounded up is not clear. -/
example : perSec 2000000003 2000000001 = 1000000001 ∧ ¬ Clear 2000000003 2000000001 := by
  decide +kernel

end VpsDashboard.Host
